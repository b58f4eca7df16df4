import Testkit.Gate

/-! # The three views of a planted tenant key

`withTrustedTenant` writes the trusted key to incoming metadata, to the context
value and to outgoing metadata.  The first two are overwritten.  The third is
appended to: it holds exactly the planted key where the context came without an outgoing
tenant key, as the door's contexts do, and both keys after a second planting.
-/
namespace Testkit

section Views
variable {Ctx MD : Type} [MetadataMap MD] [RequestContext Ctx MD]

/-- What the incoming metadata of a context holds under a name. -/
def incomingValues (ctx : Ctx) (name : String) : List String :=
  (fromIncomingContext ctx).elim [] fun md => MetadataMap.get md name

/-- What the outgoing metadata of a context holds under a name. -/
def outgoingValues (ctx : Ctx) (name : String) : List String :=
  (fromOutgoingContext ctx).elim [] fun md => MetadataMap.get md name

/-- A name that is not `x-tenant-key` in any spelling. -/
def OtherName (name : String) : Prop := name.toLower ≠ headerTenantKey.toLower

/-- The three views hold exactly one tenant key. -/
structure HoldsOnly (ctx : Ctx) (key : String) : Prop where
  incoming : incomingValues ctx headerTenantKey = [key]
  outgoing : outgoingValues ctx headerTenantKey = [key]
  value : tenantKeyFromCtx ctx = some key

/-- Two contexts agree on every metadata entry but the tenant key. -/
structure SameOtherEntries (ctx ctx' : Ctx) : Prop where
  incoming : ∀ name, OtherName name → incomingValues ctx' name = incomingValues ctx name
  outgoing : ∀ name, OtherName name → outgoingValues ctx' name = outgoingValues ctx name

theorem SameOtherEntries.trans {ctx ctx' ctx'' : Ctx} (h : SameOtherEntries ctx ctx')
    (h' : SameOtherEntries ctx' ctx'') : SameOtherEntries ctx ctx'' where
  incoming name hname := (h'.incoming name hname).trans (h.incoming name hname)
  outgoing name hname := (h'.outgoing name hname).trans (h.outgoing name hname)

/-- Two contexts agree on the tenant key in each of the three views. -/
structure SameTenantViews (ctx ctx' : Ctx) : Prop where
  incoming : incomingValues ctx headerTenantKey = incomingValues ctx' headerTenantKey
  outgoing : outgoingValues ctx headerTenantKey = outgoingValues ctx' headerTenantKey
  value : tenantKeyFromCtx ctx = tenantKeyFromCtx ctx'

/-! ## What planting writes, one view at a time -/

/-- The incoming entry is overwritten. -/
@[simp] theorem incomingValues_withTrustedTenant (ctx : Ctx) (key : String) :
    incomingValues (withTrustedTenant ctx key) headerTenantKey = [key] := by
  unfold incomingValues withTrustedTenant
  rw [RequestContext.incoming_appendToOutgoingContext, RequestContext.incoming_withTenantKey]
  cases fromIncomingContext ctx with
  | none => simp [RequestContext.incoming_newIncomingContext, MetadataMap.get_pairs]
  | some md => simp [RequestContext.incoming_newIncomingContext, MetadataMap.get_set]

theorem incomingValues_withTrustedTenant_of_other (ctx : Ctx) (key : String) {name : String}
    (hname : OtherName name) :
    incomingValues (withTrustedTenant ctx key) name = incomingValues ctx name := by
  unfold incomingValues withTrustedTenant
  rw [RequestContext.incoming_appendToOutgoingContext, RequestContext.incoming_withTenantKey]
  cases fromIncomingContext ctx with
  | none =>
    simpa [RequestContext.incoming_newIncomingContext] using
      MetadataMap.get_pairs_of_ne headerTenantKey key name hname
  | some md =>
    simpa [RequestContext.incoming_newIncomingContext] using
      MetadataMap.get_set_of_ne md headerTenantKey key name hname

/-- Before the append, planting has not touched the outgoing metadata. -/
theorem outgoing_before_append (ctx : Ctx) (key : String) : ∃ ctx' : Ctx,
    withTrustedTenant ctx key = appendToOutgoingContext ctx' headerTenantKey key ∧
    fromOutgoingContext ctx' = fromOutgoingContext ctx := by
  refine ⟨_, rfl, ?_⟩
  rw [RequestContext.outgoing_withTenantKey]
  cases fromIncomingContext ctx <;> exact RequestContext.outgoing_newIncomingContext _ _

/-- The outgoing entry is appended to, whatever it held. -/
@[simp] theorem outgoingValues_withTrustedTenant (ctx : Ctx) (key : String) :
    outgoingValues (withTrustedTenant ctx key) headerTenantKey =
      outgoingValues ctx headerTenantKey ++ [key] := by
  obtain ⟨ctx', happend, hkept⟩ := outgoing_before_append ctx key
  obtain ⟨md, hmd, hget, -⟩ :=
    RequestContext.outgoing_appendToOutgoingContext ctx' headerTenantKey key
  unfold outgoingValues
  rw [happend, hmd, ← hkept]
  exact hget

theorem outgoingValues_withTrustedTenant_of_other (ctx : Ctx) (key : String) {name : String}
    (hname : OtherName name) :
    outgoingValues (withTrustedTenant ctx key) name = outgoingValues ctx name := by
  obtain ⟨ctx', happend, hkept⟩ := outgoing_before_append ctx key
  obtain ⟨md, hmd, -, hother⟩ :=
    RequestContext.outgoing_appendToOutgoingContext ctx' headerTenantKey key
  unfold outgoingValues
  rw [happend, hmd, ← hkept]
  exact hother name hname

/-- Planting keeps every other entry. -/
theorem sameOtherEntries_withTrustedTenant (ctx : Ctx) (key : String) :
    SameOtherEntries ctx (withTrustedTenant ctx key) :=
  ⟨fun _ hname => incomingValues_withTrustedTenant_of_other ctx key hname,
    fun _ hname => outgoingValues_withTrustedTenant_of_other ctx key hname⟩

/-- What a second planting leaves: the second key alone in two views, and behind the first
in the third. -/
structure PlantedTwice (ctx : Ctx) (k₁ k₂ : String) : Prop where
  incoming : incomingValues (withTrustedTenant (withTrustedTenant ctx k₁) k₂) headerTenantKey =
    [k₂]
  outgoing : outgoingValues (withTrustedTenant (withTrustedTenant ctx k₁) k₂) headerTenantKey =
    outgoingValues ctx headerTenantKey ++ [k₁, k₂]
  value : tenantKeyFromCtx (withTrustedTenant (withTrustedTenant ctx k₁) k₂) = some k₂
  others : SameOtherEntries ctx (withTrustedTenant (withTrustedTenant ctx k₁) k₂)

theorem plantedTwice (ctx : Ctx) (k₁ k₂ : String) : PlantedTwice ctx k₁ k₂ where
  incoming := incomingValues_withTrustedTenant _ k₂
  outgoing := by
    rw [outgoingValues_withTrustedTenant, outgoingValues_withTrustedTenant, List.append_assoc]
    rfl
  value := tenantKey_withTrustedTenant _ k₂
  others := (sameOtherEntries_withTrustedTenant ctx k₁).trans
    (sameOtherEntries_withTrustedTenant _ k₂)

/-- **Planting overwrites two views of three.**  It leaves exactly the planted key
everywhere iff no outgoing tenant key was there before.  A second planting gives the
incoming and the context view of the second alone, and never its outgoing view. -/
theorem withTrustedTenant_overwrites_iff (ctx : Ctx) (k₁ k₂ : String) :
    (HoldsOnly (withTrustedTenant ctx k₁) k₁ ∧
        SameOtherEntries ctx (withTrustedTenant ctx k₁) ↔
      outgoingValues ctx headerTenantKey = []) ∧
    ¬ SameTenantViews (withTrustedTenant (withTrustedTenant ctx k₁) k₂)
        (withTrustedTenant ctx k₂) ∧
    PlantedTwice ctx k₁ k₂ := by
  refine ⟨?_, ?_, plantedTwice ctx k₁ k₂⟩
  · constructor
    · rintro ⟨hholds, -⟩
      have hout := hholds.outgoing
      rw [outgoingValues_withTrustedTenant] at hout
      exact List.append_left_eq_self.mp hout
    · intro hnone
      refine ⟨⟨?_, ?_, ?_⟩, sameOtherEntries_withTrustedTenant ctx k₁⟩
      · exact incomingValues_withTrustedTenant ctx k₁
      · rw [outgoingValues_withTrustedTenant, hnone, List.nil_append]
      · exact tenantKey_withTrustedTenant ctx k₁
  · intro hsame
    -- the first planting's key is still in front of the second's
    have hlength := congrArg List.length hsame.outgoing
    simp only [outgoingValues_withTrustedTenant, List.length_append, List.length_cons,
      List.length_nil] at hlength
    omega

/-- A context in which a key is planted already. -/
theorem withTrustedTenant_overwrites_iff_counterexample :
    ¬ (HoldsOnly (withTrustedTenant (withTrustedTenant ({} : PlainContext) "ten_alpha") "ten_beta")
          "ten_beta" ∧
        SameTenantViews
          (withTrustedTenant (withTrustedTenant ({} : PlainContext) "ten_alpha") "ten_beta")
          (withTrustedTenant ({} : PlainContext) "ten_beta")) := by
  rintro ⟨hholds, -⟩
  have hout := hholds.outgoing
  simp only [outgoingValues_withTrustedTenant] at hout
  exact absurd (congrArg List.length hout) (by simp)

end Views
end Testkit
