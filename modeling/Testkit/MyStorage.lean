import Testkit.TenantClamp

/-! # The self-service storage forwards

The RPCs a user calls on their own files.  Their requests name no owner: each forward
reads the verified actor off the context and injects `Owner{OWNER_TYPE_USER, user_id}`
into the request it rebuilds for storage-service.

A message pointer that may be nil is an `Option`, an enumeration is its number, and a
getter on a nil element reads the zero value, which is `default`.  What holds of all
seventeen forwards is in one lemma about `ownedForward`, the shape they share.
-/
namespace Testkit
open BackendCalls

/-! ## Owners -/

/-- `storagev1.OwnerType`. -/
inductive OwnerType
  | unspecified
  | user
  | system
  | group
  | business
  | service
  deriving DecidableEq, Repr

/-- `storagev1.Owner`. -/
structure Owner where
  ownerType : OwnerType
  ownerId : Int64
  deriving DecidableEq, Repr

/-- A request of storage-service: its owner and the rest of it. -/
structure Owned (R : Type) where
  owner : Owner
  rest : R

/-- An error of a self-service RPC: `xcodes.ErrUnauthorized.Wrap(err)`, the dashboard's
`xcodes.ErrCallerUnresolved.New()`, or what a downstream call returned. -/
inductive SelfServiceError (D : Type)
  | unauthorized
  | callerUnresolved
  | downstream (cause : D)
  deriving DecidableEq, Repr

section Owners
variable {Ctx MD D : Type} [MetadataMap MD] [RequestContext Ctx MD]

/-- `ownerFromCtx`. -/
def ownerFromCtx (ctx : Ctx) : Except (SelfServiceError D) Owner :=
  match actorFromCtx ctx with
  | none => .error .unauthorized
  | some actor => .ok { ownerType := .user, ownerId := actor.userId }

theorem ownerFromCtx_actor {ctx : Ctx} {a : RequestActor} (ha : actorFromCtx ctx = some a) :
    ownerFromCtx (D := D) ctx = .ok ⟨.user, a.userId⟩ := by
  simp [ownerFromCtx, ha]

theorem ownerFromCtx_anonymous {ctx : Ctx} (ha : actorFromCtx ctx = none) :
    ownerFromCtx (D := D) ctx = .error .unauthorized := by
  simp [ownerFromCtx, ha]

end Owners

/-! ## Messages, on either side of the forward -/

/-- `map<string, string>`. -/
abbrev StringMap : Type := String → Option String

/-- `FileInfo`, and storage's `UserFileInfo`. -/
structure FileInfo (side : Side) where
  id : Int64
  filename : String
  filePath : String
  description : String
  metadata : StringMap
  isPublic : Bool
  ownerType : Int32
  size : Int64
  contentType : String
  extension : String
  md5 : String
  createdAt : String
  updatedAt : String

structure QuotaInfo (side : Side) where
  totalBytes : Int64
  usedBytes : Int64
  availableBytes : Int64
  fileCount : Int32

/-- `before` and `after` are `google.protobuf.Struct`s and passed on by reference. -/
structure AuditLogEntry (S : Type) (side : Side) where
  id : Int64
  action : Int32
  ownerType : Int32
  ownerId : Int64
  targetType : Int32
  targetId : Int64
  before : Option S
  after : Option S
  status : Int32
  errorMessage : String
  requestId : String
  createdAt : String

structure ImageProcessOp (side : Side) where
  type : Int32
  width : Int32
  height : Int32
  format : Int32
  quality : Int32
  resizeMode : Int32
  watermarkText : String
  rotateDegrees : Int32
  deriving Inhabited

structure UploadFileMeta (side : Side) where
  md5 : String
  size : Int64
  filename : String
  contentType : String
  filePath : String
  description : String
  metadata : StringMap
  deriving Inhabited

structure UploadTokenInfo (side : Side) where
  uploadToken : String
  expiresAt : Int64
  fileId : Int64
  objectKey : String
  deriving Inhabited

structure ItemError (side : Side) where
  index : Int32
  code : String
  message : String
  deriving Inhabited

/-- The `result` oneof of an `UploadCredentialItem`. -/
inductive UploadResult (side : Side)
  | token (info : Option (UploadTokenInfo side))
  | error (info : Option (ItemError side))

structure UploadCredentialItem (side : Side) where
  result : Option (UploadResult side)

structure GenerateUploadURLRequest (side : Side) where
  filename : String
  size : Int64
  md5 : String
  contentType : String
  filePath : String
  description : String
  metadata : StringMap
  vendor : Int32
  visibility : Int32
  requestId : String

structure GenerateUploadURLResponse (side : Side) where
  instant : Bool
  fileId : Int64
  fileInfo : Option (FileInfo side)
  uploadToken : String
  uploadUrl : String
  objectKey : String
  headers : StringMap

structure GetSTSCredentialRequest (side : Side) where
  maxSize : Int64
  filename : String
  md5 : String
  contentType : String
  filePath : String
  description : String
  metadata : StringMap
  vendor : Int32
  ttl : String
  allowedExtensions : List String
  visibility : Int32
  requestId : String

structure GetSTSCredentialResponse (side : Side) where
  instant : Bool
  fileId : Int64
  fileInfo : Option (FileInfo side)
  uploadToken : String
  accessKey : String
  secretKey : String
  securityToken : String
  endpoint : String
  bucket : String
  objectKey : String
  expiresAt : Int64

structure BatchGetSTSCredentialRequest (side : Side) where
  files : List (Option (UploadFileMeta side))
  ttl : String
  allowedExtensions : List String
  visibility : Int32
  requestId : String

structure BatchGetSTSCredentialResponse (side : Side) where
  accessKey : String
  secretKey : String
  securityToken : String
  endpoint : String
  bucket : String
  expiresAt : Int64
  items : List (Option (UploadCredentialItem side))

structure ConfirmUploadRequest (side : Side) where
  uploadToken : String
  requestId : String

structure ConfirmUploadResponse (side : Side) where
  fileId : Int64
  fileInfo : Option (FileInfo side)

structure CancelUploadRequest (side : Side) where
  uploadToken : String
  requestId : String

structure GenerateDownloadURLRequest (side : Side) where
  fileId : Int64
  ttlSeconds : Int32
  filename : Option String

structure GenerateDownloadURLResponse (side : Side) where
  downloadUrl : String
  expiresAt : Int64

structure CreateFileLinkRequest (side : Side) where
  fileId : Int64
  retentionTtlSeconds : Int32

structure CreateFileLinkResponse (side : Side) where
  linkToken : String
  retainUntil : Int64

structure GenerateProcessURLRequest (side : Side) where
  fileId : Int64
  ops : List (Option (ImageProcessOp side))
  ttlSeconds : Int32

structure GenerateCDNURLRequest (side : Side) where
  fileId : Int64
  ops : List (Option (ImageProcessOp side))
  ttl : String
  isPublic : Bool
  filename : Option String
  requestId : String

/-- `GenerateProcessURLResponse` and `GenerateCDNURLResponse`. -/
structure SignedURLResponse (side : Side) where
  url : String
  expiresAt : Int64

structure ListMyFilesRequest (side : Side) where
  pathPrefix : String
  extension : String
  contentTypePrefix : String
  orderBy : Int32
  descending : Bool
  pageSize : Int32
  pageToken : String

structure ListMyFilesResponse (side : Side) where
  files : List (Option (FileInfo side))
  nextPageToken : String

structure ListMyFilesPagedRequest (side : Side) where
  page : Int32
  pageSize : Int32
  pathPrefix : String
  extension : String
  contentTypePrefix : String
  orderBy : Int32
  descending : Bool

structure ListMyFilesPagedResponse (side : Side) where
  files : List (Option (FileInfo side))
  totalCount : Int64
  page : Int32
  totalPages : Int32
  hasMore : Bool

structure GetMyFileRequest (side : Side) where
  fileId : Int64

structure UpdateMyFileRequest (side : Side) where
  fileId : Int64
  filename : Option String
  filePath : Option String
  description : Option String
  metadata : StringMap
  clearMetadata : Option Bool
  requestId : String

structure DeleteMyFileRequest (side : Side) where
  fileId : Int64
  requestId : String

structure BatchDeleteMyFilesRequest (side : Side) where
  fileIds : List Int64
  requestId : String

structure BatchDeleteMyFilesResponse (side : Side) where
  deletedCount : Int32
  failedIds : List Int64

structure GetMyQuotaRequest (side : Side) where

structure ListMyAuditLogsRequest (side : Side) where
  action : Int32
  targetType : Int32
  startTime : String
  endTime : String
  pageSize : Int32
  pageToken : String

structure ListMyAuditLogsResponse (S : Type) (side : Side) where
  logs : List (Option (AuditLogEntry S side))
  totalCount : Int32
  nextPageToken : String

/-! ## Converters -/

namespace Storage
variable {S : Type}

def toTestkitFileInfo (f : Option (FileInfo .backend)) : Option (FileInfo .testkit) :=
  f.map fun f =>
    { id := f.id
      filename := f.filename
      filePath := f.filePath
      description := f.description
      metadata := f.metadata
      isPublic := f.isPublic
      ownerType := f.ownerType
      size := f.size
      contentType := f.contentType
      extension := f.extension
      md5 := f.md5
      createdAt := f.createdAt
      updatedAt := f.updatedAt }

def toTestkitQuotaInfo (q : Option (QuotaInfo .backend)) : Option (QuotaInfo .testkit) :=
  q.map fun q =>
    { totalBytes := q.totalBytes
      usedBytes := q.usedBytes
      availableBytes := q.availableBytes
      fileCount := q.fileCount }

def toTestkitAuditLogEntry (e : Option (AuditLogEntry S .backend)) :
    Option (AuditLogEntry S .testkit) :=
  e.map fun e =>
    { id := e.id
      action := e.action
      ownerType := e.ownerType
      ownerId := e.ownerId
      targetType := e.targetType
      targetId := e.targetId
      before := e.before
      after := e.after
      status := e.status
      errorMessage := e.errorMessage
      requestId := e.requestId
      createdAt := e.createdAt }

/-- `toStorageImageProcessOps`: a nil element becomes an empty operation. -/
def toStorageImageProcessOps (ops : List (Option (ImageProcessOp .testkit))) :
    List (Option (ImageProcessOp .backend)) :=
  ops.map fun o =>
    let o := o.getD default
    some
      { type := o.type
        width := o.width
        height := o.height
        format := o.format
        quality := o.quality
        resizeMode := o.resizeMode
        watermarkText := o.watermarkText
        rotateDegrees := o.rotateDegrees }

/-- `toTestkitUploadCredentialItem`: an item whose oneof is unset becomes nil. -/
def toTestkitUploadCredentialItem (it : Option (UploadCredentialItem .backend)) :
    Option (UploadCredentialItem .testkit) :=
  match it.bind UploadCredentialItem.result with
  | some (.token info) =>
    let info := info.getD default
    some ⟨some (.token (some
      { uploadToken := info.uploadToken
        expiresAt := info.expiresAt
        fileId := info.fileId
        objectKey := info.objectKey }))⟩
  | some (.error info) =>
    let info := info.getD default
    some ⟨some (.error (some
      { index := info.index
        code := info.code
        message := info.message }))⟩
  | none => none

end Storage

/-! ## The service -/

/-- The owner-scoped RPCs. -/
inductive OwnerRpc
  | generateUploadURL
  | getSTSCredential
  | batchGetSTSCredential
  | confirmUpload
  | cancelUpload
  | generateDownloadURL
  | createFileLink
  | generateProcessURL
  | generateCDNURL
  | listMyFiles
  | listMyFilesPaged
  | getMyFile
  | updateMyFile
  | deleteMyFile
  | batchDeleteMyFiles
  | getMyQuota
  | listMyAuditLogs
  deriving DecidableEq, Repr

namespace OwnerRpc

/-- What an RPC is asked, on either side; `Unit` is `emptypb.Empty`. -/
def Req : OwnerRpc → Side → Type
  | generateUploadURL => GenerateUploadURLRequest
  | getSTSCredential => GetSTSCredentialRequest
  | batchGetSTSCredential => BatchGetSTSCredentialRequest
  | confirmUpload => ConfirmUploadRequest
  | cancelUpload => CancelUploadRequest
  | generateDownloadURL => GenerateDownloadURLRequest
  | createFileLink => CreateFileLinkRequest
  | generateProcessURL => GenerateProcessURLRequest
  | generateCDNURL => GenerateCDNURLRequest
  | listMyFiles => ListMyFilesRequest
  | listMyFilesPaged => ListMyFilesPagedRequest
  | getMyFile => GetMyFileRequest
  | updateMyFile => UpdateMyFileRequest
  | deleteMyFile => DeleteMyFileRequest
  | batchDeleteMyFiles => BatchDeleteMyFilesRequest
  | getMyQuota => fun
    | .testkit => Unit
    | .backend => GetMyQuotaRequest .backend
  | listMyAuditLogs => ListMyAuditLogsRequest

/-- What an RPC answers. -/
def Resp (S : Type) : OwnerRpc → Side → Type
  | generateUploadURL => GenerateUploadURLResponse
  | getSTSCredential => GetSTSCredentialResponse
  | batchGetSTSCredential => BatchGetSTSCredentialResponse
  | confirmUpload => ConfirmUploadResponse
  | cancelUpload | deleteMyFile => fun _ => Unit
  | generateDownloadURL => GenerateDownloadURLResponse
  | createFileLink => CreateFileLinkResponse
  | generateProcessURL | generateCDNURL => SignedURLResponse
  | listMyFiles => ListMyFilesResponse
  | listMyFilesPaged => ListMyFilesPagedResponse
  | getMyFile | updateMyFile => fun side => Option (FileInfo side)
  | batchDeleteMyFiles => BatchDeleteMyFilesResponse
  | getMyQuota => fun side => Option (QuotaInfo side)
  | listMyAuditLogs => ListMyAuditLogsResponse S

end OwnerRpc

/-- The owner-scoped methods of `storageservice.Service`. -/
def OwnerClient (Ctx D S : Type) : Type :=
  ∀ rpc : OwnerRpc, Ctx → Owned (rpc.Req .backend) → Except D (rpc.Resp S .backend)

section Forwards
variable {Ctx MD D S R A B : Type} [MetadataMap MD] [RequestContext Ctx MD]

/-- The shape of the forwards: the owner off the context, one call, its answer
converted. -/
def ownedForward (client : Ctx → Owned R → Except D A) (toTestkit : A → B) (ctx : Ctx)
    (rest : R) : Handled (Ctx × Owned R) (SelfServiceError D) B := do
  let owner ← check (ownerFromCtx ctx)
  let req := { owner, rest }
  let resp ← call (ctx, req) ((client ctx req).mapError .downstream)
  return toTestkit resp

namespace Storage
variable (s : OwnerClient Ctx D S) (ctx : Ctx)

def generateUploadURL (req : GenerateUploadURLRequest .testkit) :=
  ownedForward (s .generateUploadURL)
    (fun resp : GenerateUploadURLResponse .backend =>
      ({ instant := resp.instant
         fileId := resp.fileId
         fileInfo := toTestkitFileInfo resp.fileInfo
         uploadToken := resp.uploadToken
         uploadUrl := resp.uploadUrl
         objectKey := resp.objectKey
         headers := resp.headers } : GenerateUploadURLResponse .testkit))
    ctx
    ({ filename := req.filename
       size := req.size
       md5 := req.md5
       contentType := req.contentType
       filePath := req.filePath
       description := req.description
       metadata := req.metadata
       vendor := req.vendor
       visibility := req.visibility
       requestId := req.requestId } : GenerateUploadURLRequest .backend)

def getSTSCredential (req : GetSTSCredentialRequest .testkit) :=
  ownedForward (s .getSTSCredential)
    (fun resp : GetSTSCredentialResponse .backend =>
      ({ instant := resp.instant
         fileId := resp.fileId
         fileInfo := toTestkitFileInfo resp.fileInfo
         uploadToken := resp.uploadToken
         accessKey := resp.accessKey
         secretKey := resp.secretKey
         securityToken := resp.securityToken
         endpoint := resp.endpoint
         bucket := resp.bucket
         objectKey := resp.objectKey
         expiresAt := resp.expiresAt } : GetSTSCredentialResponse .testkit))
    ctx
    ({ maxSize := req.maxSize
       filename := req.filename
       md5 := req.md5
       contentType := req.contentType
       filePath := req.filePath
       description := req.description
       metadata := req.metadata
       vendor := req.vendor
       ttl := req.ttl
       allowedExtensions := req.allowedExtensions
       visibility := req.visibility
       requestId := req.requestId } : GetSTSCredentialRequest .backend)

/-- The loop over `req.GetFiles()`: a nil element becomes an empty description. -/
def toStorageUploadFileMeta (f : Option (UploadFileMeta .testkit)) :
    Option (UploadFileMeta .backend) :=
  let f := f.getD default
  some
    { md5 := f.md5
      size := f.size
      filename := f.filename
      contentType := f.contentType
      filePath := f.filePath
      description := f.description
      metadata := f.metadata }

def batchGetSTSCredential (req : BatchGetSTSCredentialRequest .testkit) :=
  ownedForward (s .batchGetSTSCredential)
    (fun resp : BatchGetSTSCredentialResponse .backend =>
      ({ accessKey := resp.accessKey
         secretKey := resp.secretKey
         securityToken := resp.securityToken
         endpoint := resp.endpoint
         bucket := resp.bucket
         expiresAt := resp.expiresAt
         items := resp.items.map toTestkitUploadCredentialItem } :
        BatchGetSTSCredentialResponse .testkit))
    ctx
    ({ files := req.files.map toStorageUploadFileMeta
       ttl := req.ttl
       allowedExtensions := req.allowedExtensions
       visibility := req.visibility
       requestId := req.requestId } : BatchGetSTSCredentialRequest .backend)

def confirmUpload (req : ConfirmUploadRequest .testkit) :=
  ownedForward (s .confirmUpload)
    (fun resp : ConfirmUploadResponse .backend =>
      ({ fileId := resp.fileId, fileInfo := toTestkitFileInfo resp.fileInfo } :
        ConfirmUploadResponse .testkit))
    ctx
    ({ uploadToken := req.uploadToken, requestId := req.requestId } :
      ConfirmUploadRequest .backend)

/-- `CancelUpload` hands back what storage answered. -/
def cancelUpload (req : CancelUploadRequest .testkit) :=
  ownedForward (s .cancelUpload) (fun resp : Unit => resp) ctx
    ({ uploadToken := req.uploadToken, requestId := req.requestId } :
      CancelUploadRequest .backend)

def generateDownloadURL (req : GenerateDownloadURLRequest .testkit) :=
  ownedForward (s .generateDownloadURL)
    (fun resp : GenerateDownloadURLResponse .backend =>
      ({ downloadUrl := resp.downloadUrl, expiresAt := resp.expiresAt } :
        GenerateDownloadURLResponse .testkit))
    ctx
    ({ fileId := req.fileId, ttlSeconds := req.ttlSeconds, filename := req.filename } :
      GenerateDownloadURLRequest .backend)

def createFileLink (req : CreateFileLinkRequest .testkit) :=
  ownedForward (s .createFileLink)
    (fun resp : CreateFileLinkResponse .backend =>
      ({ linkToken := resp.linkToken, retainUntil := resp.retainUntil } :
        CreateFileLinkResponse .testkit))
    ctx
    ({ fileId := req.fileId, retentionTtlSeconds := req.retentionTtlSeconds } :
      CreateFileLinkRequest .backend)

def generateProcessURL (req : GenerateProcessURLRequest .testkit) :=
  ownedForward (s .generateProcessURL)
    (fun resp : SignedURLResponse .backend =>
      ({ url := resp.url, expiresAt := resp.expiresAt } : SignedURLResponse .testkit))
    ctx
    ({ fileId := req.fileId
       ops := toStorageImageProcessOps req.ops
       ttlSeconds := req.ttlSeconds } : GenerateProcessURLRequest .backend)

def generateCDNURL (req : GenerateCDNURLRequest .testkit) :=
  ownedForward (s .generateCDNURL)
    (fun resp : SignedURLResponse .backend =>
      ({ url := resp.url, expiresAt := resp.expiresAt } : SignedURLResponse .testkit))
    ctx
    ({ fileId := req.fileId
       ops := toStorageImageProcessOps req.ops
       ttl := req.ttl
       isPublic := req.isPublic
       filename := req.filename
       requestId := req.requestId } : GenerateCDNURLRequest .backend)

def listMyFiles (req : ListMyFilesRequest .testkit) :=
  ownedForward (s .listMyFiles)
    (fun resp : ListMyFilesResponse .backend =>
      ({ files := resp.files.map toTestkitFileInfo, nextPageToken := resp.nextPageToken } :
        ListMyFilesResponse .testkit))
    ctx
    ({ pathPrefix := req.pathPrefix
       extension := req.extension
       contentTypePrefix := req.contentTypePrefix
       orderBy := req.orderBy
       descending := req.descending
       pageSize := req.pageSize
       pageToken := req.pageToken } : ListMyFilesRequest .backend)

def listMyFilesPaged (req : ListMyFilesPagedRequest .testkit) :=
  ownedForward (s .listMyFilesPaged)
    (fun resp : ListMyFilesPagedResponse .backend =>
      ({ files := resp.files.map toTestkitFileInfo
         totalCount := resp.totalCount
         page := resp.page
         totalPages := resp.totalPages
         hasMore := resp.hasMore } : ListMyFilesPagedResponse .testkit))
    ctx
    ({ page := req.page
       pageSize := req.pageSize
       pathPrefix := req.pathPrefix
       extension := req.extension
       contentTypePrefix := req.contentTypePrefix
       orderBy := req.orderBy
       descending := req.descending } : ListMyFilesPagedRequest .backend)

def getMyFile (req : GetMyFileRequest .testkit) :=
  ownedForward (s .getMyFile) toTestkitFileInfo ctx
    ({ fileId := req.fileId } : GetMyFileRequest .backend)

def updateMyFile (req : UpdateMyFileRequest .testkit) :=
  ownedForward (s .updateMyFile) toTestkitFileInfo ctx
    ({ fileId := req.fileId
       filename := req.filename
       filePath := req.filePath
       description := req.description
       metadata := req.metadata
       clearMetadata := req.clearMetadata
       requestId := req.requestId } : UpdateMyFileRequest .backend)

/-- `DeleteMyFile` hands back what storage answered. -/
def deleteMyFile (req : DeleteMyFileRequest .testkit) :=
  ownedForward (s .deleteMyFile) (fun resp : Unit => resp) ctx
    ({ fileId := req.fileId, requestId := req.requestId } : DeleteMyFileRequest .backend)

def batchDeleteMyFiles (req : BatchDeleteMyFilesRequest .testkit) :=
  ownedForward (s .batchDeleteMyFiles)
    (fun resp : BatchDeleteMyFilesResponse .backend =>
      ({ deletedCount := resp.deletedCount, failedIds := resp.failedIds } :
        BatchDeleteMyFilesResponse .testkit))
    ctx
    ({ fileIds := req.fileIds, requestId := req.requestId } :
      BatchDeleteMyFilesRequest .backend)

def getMyQuota (_ : Unit) :=
  ownedForward (s .getMyQuota) toTestkitQuotaInfo ctx ({} : GetMyQuotaRequest .backend)

def listMyAuditLogs (req : ListMyAuditLogsRequest .testkit) :=
  ownedForward (s .listMyAuditLogs)
    (fun resp : ListMyAuditLogsResponse S .backend =>
      ({ logs := resp.logs.map toTestkitAuditLogEntry
         totalCount := resp.totalCount
         nextPageToken := resp.nextPageToken } : ListMyAuditLogsResponse S .testkit))
    ctx
    ({ action := req.action
       targetType := req.targetType
       startTime := req.startTime
       endTime := req.endTime
       pageSize := req.pageSize
       pageToken := req.pageToken } : ListMyAuditLogsRequest .backend)

end Storage

/-- The forward that serves each RPC. -/
def OwnerRpc.serve (s : OwnerClient Ctx D S) (ctx : Ctx) : ∀ rpc : OwnerRpc, rpc.Req .testkit →
    Handled (Ctx × Owned (rpc.Req .backend)) (SelfServiceError D) (rpc.Resp S .testkit)
  | generateUploadURL => Storage.generateUploadURL s ctx
  | getSTSCredential => Storage.getSTSCredential s ctx
  | batchGetSTSCredential => Storage.batchGetSTSCredential s ctx
  | confirmUpload => Storage.confirmUpload s ctx
  | cancelUpload => Storage.cancelUpload s ctx
  | generateDownloadURL => Storage.generateDownloadURL s ctx
  | createFileLink => Storage.createFileLink s ctx
  | generateProcessURL => Storage.generateProcessURL s ctx
  | generateCDNURL => Storage.generateCDNURL s ctx
  | listMyFiles => Storage.listMyFiles s ctx
  | listMyFilesPaged => Storage.listMyFilesPaged s ctx
  | getMyFile => Storage.getMyFile s ctx
  | updateMyFile => Storage.updateMyFile s ctx
  | deleteMyFile => Storage.deleteMyFile s ctx
  | batchDeleteMyFiles => Storage.batchDeleteMyFiles s ctx
  | getMyQuota => Storage.getMyQuota s ctx
  | listMyAuditLogs => Storage.listMyAuditLogs s ctx

/-! ## What every forward does with its caller -/

/-- Without an actor nothing is called. -/
theorem ownedForward_anonymous {client : Ctx → Owned R → Except D A} {toTestkit : A → B}
    {ctx : Ctx} {rest : R} (ha : actorFromCtx ctx = none) :
    ownedForward client toTestkit ctx rest = ⟨[], .error .unauthorized⟩ := by
  rw [ownedForward, check_error (ownerFromCtx_anonymous ha)]

/-- With an actor there is one call, under the actor's own id, and its error is the
forward's. -/
theorem ownedForward_actor {client : Ctx → Owned R → Except D A} {toTestkit : A → B}
    {ctx : Ctx} {a : RequestActor} {rest : R} (ha : actorFromCtx ctx = some a) :
    ownedForward client toTestkit ctx rest =
      ⟨[(ctx, ⟨⟨.user, a.userId⟩, rest⟩)],
        ((client ctx ⟨⟨.user, a.userId⟩, rest⟩).map toTestkit).mapError .downstream⟩ := by
  rw [ownedForward, check_ok (ownerFromCtx_actor ha)]
  show (call (ctx, _)
    ((client ctx ⟨⟨.user, a.userId⟩, rest⟩).mapError SelfServiceError.downstream) >>= _) = _
  cases client ctx ⟨⟨.user, a.userId⟩, rest⟩ with
  | ok resp => rfl
  | error d => rfl

/-- Each RPC is an owned forward to the method of its name; what it sends is a function
of the request. -/
theorem OwnerRpc.serve_eq (s : OwnerClient Ctx D S) (rpc : OwnerRpc) :
    ∃ (toStorage : rpc.Req .testkit → rpc.Req .backend)
      (toTestkit : rpc.Resp S .backend → rpc.Resp S .testkit),
      ∀ ctx req, rpc.serve s ctx req = ownedForward (s rpc) toTestkit ctx (toStorage req) := by
  cases rpc <;> exact ⟨_, _, fun _ _ => rfl⟩

/-- How an RPC treats its caller, for one request. -/
structure OwnerScoped (s : OwnerClient Ctx D S) (rpc : OwnerRpc) (req : rpc.Req .testkit)
    (sent : rpc.Req .backend) : Prop where
  anonymous : ∀ ctx, actorFromCtx ctx = none →
    rpc.serve s ctx req = ⟨[], .error .unauthorized⟩
  /-- What is sent is the same in every context but for the owner, and the owner is the
  actor's id. -/
  calls : ∀ ctx a, actorFromCtx ctx = some a →
    (rpc.serve s ctx req).calls = [(ctx, ⟨⟨.user, a.userId⟩, sent⟩)]
  failed : ∀ ctx a d, actorFromCtx ctx = some a →
    s rpc ctx ⟨⟨.user, a.userId⟩, sent⟩ = .error d →
    (rpc.serve s ctx req).answer = .error (.downstream d)
  answered : ∀ ctx a resp, actorFromCtx ctx = some a →
    s rpc ctx ⟨⟨.user, a.userId⟩, sent⟩ = .ok resp →
    ∃ resp', (rpc.serve s ctx req).answer = .ok resp'

/-- **Every self-service RPC is owner-scoped.** -/
theorem OwnerRpc.ownerScoped (s : OwnerClient Ctx D S) (rpc : OwnerRpc)
    (req : rpc.Req .testkit) : ∃ sent, OwnerScoped s rpc req sent := by
  obtain ⟨toStorage, toTestkit, hserve⟩ := OwnerRpc.serve_eq s rpc
  refine ⟨toStorage req, ?_, ?_, ?_, ?_⟩
  · intro ctx ha
    rw [hserve, ownedForward_anonymous ha]
  · intro ctx a ha
    rw [hserve, ownedForward_actor ha]
  · intro ctx a d ha hd
    rw [hserve, ownedForward_actor ha, hd]
    rfl
  · intro ctx a resp ha hresp
    rw [hserve, ownedForward_actor ha, hresp]
    exact ⟨_, rfl⟩

end Forwards
end Testkit
