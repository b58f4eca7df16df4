import Testkit.Phone
import Testkit.TenantClamp

/-! # The user-administration forwards

`CreateUser` of `internal/service/user`: the console's form is rebuilt for
user-service, its two phone fields composed into one.
-/
namespace Testkit.UserAdmin
open BackendCalls

/-- `testkitv1.CreateUserRequest`. -/
structure CreateUserRequest where
  userType : Int32
  username : String
  nickname : String
  realName : String
  email : String
  dialCode : String
  phone : String
  password : String
  gender : Int32
  timezone : String
  locale : String
  tenantKey : String
  deriving DecidableEq, Repr

/-- `userv1.CreateUserRequest`. -/
structure BackendCreateUserRequest where
  userType : Int32
  username : String
  nickname : String
  realName : String
  email : String
  phone : String
  password : String
  gender : Int32
  timezone : String
  locale : String
  tenantKey : String
  deriving DecidableEq, Repr

structure User (side : Side) where
  id : Int64
  username : String
  nickname : String
  realName : String
  avatarUrl : String
  email : String
  regionCode : String
  phone : String
  gender : Int32
  birthday : String
  timezone : String
  locale : String
  bio : String
  status : Int32
  registerSource : Int32
  userType : Int32
  lastLoginAt : Option Timestamp
  createdAt : Option Timestamp
  updatedAt : Option Timestamp
  dialCode : String
  defaultCurrency : String
  mfaEnabled : Bool
  tenantKey : String
  deriving DecidableEq, Repr

structure CreateUserResponse (side : Side) where
  user : Option (User side)
  deriving DecidableEq, Repr

def toUserCreateUserRequest (r : CreateUserRequest) : BackendCreateUserRequest :=
  { userType := r.userType
    username := r.username
    nickname := r.nickname
    realName := r.realName
    email := r.email
    phone := Phone.composeE164 r.dialCode r.phone
    password := r.password
    gender := r.gender
    timezone := r.timezone
    locale := r.locale
    tenantKey := r.tenantKey }

def toTestkitUser (u : Option (User .backend)) : Option (User .testkit) :=
  u.map fun u =>
    { id := u.id
      username := u.username
      nickname := u.nickname
      realName := u.realName
      avatarUrl := u.avatarUrl
      email := u.email
      regionCode := u.regionCode
      phone := u.phone
      gender := u.gender
      birthday := u.birthday
      timezone := u.timezone
      locale := u.locale
      bio := u.bio
      status := u.status
      registerSource := u.registerSource
      userType := u.userType
      lastLoginAt := u.lastLoginAt
      createdAt := u.createdAt
      updatedAt := u.updatedAt
      dialCode := u.dialCode
      defaultCurrency := u.defaultCurrency
      mfaEnabled := u.mfaEnabled
      tenantKey := u.tenantKey }

/-- The method of `userservice.Service` behind `CreateUser`. -/
structure Client (Ctx D : Type) where
  createUser : Ctx → BackendCreateUserRequest → Except D (CreateUserResponse .backend)

section Forwards
variable {Ctx D : Type} {s : Client Ctx D} {ctx : Ctx} {req : CreateUserRequest}

/-- `CreateUser`. -/
def createUser (s : Client Ctx D) (ctx : Ctx) (req : CreateUserRequest) :
    Handled (Ctx × BackendCreateUserRequest) (ServiceError D) (CreateUserResponse .testkit) := do
  let resp ← forward s.createUser ctx (toUserCreateUserRequest req)
  return { user := toTestkitUser resp.user }

theorem calls_createUser :
    (createUser s ctx req).calls = [(ctx, toUserCreateUserRequest req)] := by
  rw [createUser, calls_bind_pure]
  rfl

end Forwards
end Testkit.UserAdmin
