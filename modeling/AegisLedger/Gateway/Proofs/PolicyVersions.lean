import AegisLedger.Gateway.Proofs.ServiceLedger

/-!
# Well-formed policy registries

Status, approvals and the active pointer of a registry are written by different calls.  A call
writes at most two versions, each under its own identifier, so what a registry keeps is shown
version by version.
-/

namespace AegisLedger.Gateway.PolicyVersions

open AegisLedger.Support HexText Checks Dict
open PolicyRegistry

/-! ## Calls -/

inductive RegistryCall
  | create (policy : PolicyV1) (createdBy : Str) (versionId : Uuid) (now : Datetime)
  | approve (versionId : Uuid) (administratorId : Str)
  | activate (versionId : Uuid) (activatedBy : Str) (now : Datetime)

/-- A registry with the identifiers of the versions that were ever activated. -/
structure Governance (host : Host) where
  registry : PolicyRegistry host
  activated : List Uuid

variable {host : Host}

/-- A call; one that raises leaves everything as it is. -/
def Governance.perform (governance : Governance host) : RegistryCall → Governance host
  | .create policy createdBy versionId now =>
    match governance.registry.create policy createdBy versionId now with
    | .ok (_, registry) => { governance with registry }
    | .error _ => governance
  | .approve versionId administratorId =>
    match governance.registry.approve versionId administratorId with
    | .ok (_, registry) => { governance with registry }
    | .error _ => governance
  | .activate versionId activatedBy now =>
    match governance.registry.activate versionId activatedBy now with
    | .ok (_, registry) => ⟨registry, governance.activated ++ [versionId]⟩
    | .error _ => governance

/-- `uuid7` draws an identifier that no version has. -/
def Fresh (governance : Governance host) : RegistryCall → Prop
  | .create _ _ versionId _ => governance.registry.versions.get? versionId = none
  | .approve _ _ => True
  | .activate _ _ _ => True

abbrev RegistryRun : Governance host → List RegistryCall → Governance host → Prop :=
  Run (Run.Guarded Fresh Governance.perform)

def Governance.new : Governance host := ⟨.empty, []⟩

/-! ## What a call does -/

variable {registry after : PolicyRegistry host} {versionId : Uuid} {now : Datetime}

theorem create_cases {policy : PolicyV1} {createdBy : Str} {created : PolicyVersion host}
    (h : registry.create policy createdBy versionId now = .ok (created, after)) :
    ∃ policyHash hashed, after = registry.put
      (draft policy policyHash hashed createdBy versionId now) := by
  unfold create at h
  split at h
  · cases h
  · rename_i policyHash hashed
    exact ⟨policyHash, hashed, (Prod.mk.inj (Except.ok.inj h)).2.symm⟩

variable {version : PolicyVersion host}

theorem get_eq_ok :
    registry.get versionId = .ok version ↔ registry.versions.get? versionId = some version :=
  orRaise_eq_ok

/-- The approvals with those of one more administrator. -/
def addApproval (approvals : List Str) (administratorId : Str) : List Str :=
  if administratorId ∈ approvals then approvals else approvals ++ [administratorId]

theorem approve_cases {administratorId : Str} {approved : PolicyVersion host}
    (h : registry.approve versionId administratorId = .ok (approved, after)) :
    ∃ version, registry.versions.get? versionId = some version ∧
      version.status ≠ .active ∧ version.status ≠ .retired ∧
      approved = { version with
        approvals := addApproval version.approvals administratorId
        status := if 2 ≤ (addApproval version.approvals administratorId).length then .approved
          else version.status } ∧
      after = registry.put approved := by
  rw [approve, bind_eq_ok] at h
  obtain ⟨version, hget, h⟩ := h
  rw [raiseIf_bind_eq_ok, pure_eq_ok, Prod.mk.injEq] at h
  obtain ⟨hstatus, happroved, hafter⟩ := h
  obtain ⟨hactive, hretired⟩ := not_or.mp hstatus
  refine ⟨version, get_eq_ok.mp hget, hactive, hretired, happroved.symm, ?_⟩
  rw [← happroved]
  exact hafter.symm

variable {retired : PolicyRegistry host}

theorem retire_cases (h : registry.retire versionId = .ok retired) :
    ((registry.activeId = none ∨ registry.activeId = some versionId) ∧ retired = registry) ∨
      ∃ activeId active, registry.activeId = some activeId ∧ activeId ≠ versionId ∧
        registry.versions.get? activeId = some active ∧
        retired = registry.put { active with status := .retired } := by
  unfold retire at h
  split at h
  · rename_i hnone
    exact Or.inl ⟨Or.inl hnone, (Except.ok.inj h).symm⟩
  · rename_i activeId hsome
    split_ifs at h with hsame
    · exact Or.inl ⟨Or.inr (by rw [hsome, hsame]), (Except.ok.inj h).symm⟩
    · rw [bind_eq_ok] at h
      obtain ⟨active, hget, h⟩ := h
      exact Or.inr ⟨activeId, active, hsome, hsame, get_eq_ok.mp hget, (Except.ok.inj h).symm⟩

theorem activate_cases {activatedBy : Str} {activated : PolicyVersion host}
    (h : registry.activate versionId activatedBy now = .ok (activated, after)) :
    ∃ version retired, registry.versions.get? versionId = some version ∧
      2 ≤ version.approvals.length ∧ registry.retire versionId = .ok retired ∧
      activated = { version with
        status := .active, activatedAt := some now, activatedBy := some activatedBy } ∧
      after = { retired.put activated with activeId := some versionId } := by
  rw [activate, bind_eq_ok] at h
  obtain ⟨version, hget, h⟩ := h
  rw [raiseIf_bind_eq_ok, bind_eq_ok] at h
  obtain ⟨happrovals, retired, hretired, h⟩ := h
  rw [pure_eq_ok, Prod.mk.injEq] at h
  obtain ⟨hactivated, hafter⟩ := h
  refine ⟨version, retired, get_eq_ok.mp hget, not_lt.mp happrovals, hretired,
    hactivated.symm, ?_⟩
  rw [← hactivated]
  exact hafter.symm

/-! ## Versions -/

/-- The approvals that a version needs for its status. -/
structure VersionOk (versionId : Uuid) (version : PolicyVersion host) : Prop where
  keyed : version.versionId = versionId
  distinct : version.approvals.Nodup
  draft : version.status = .draft → version.approvals.length < 2
  approved : version.status ≠ .draft → 2 ≤ version.approvals.length

/-- A version is active exactly under the active pointer. -/
structure Consistent (registry : PolicyRegistry host) : Prop where
  versions : ∀ {versionId version}, registry.versions.get? versionId = some version →
    VersionOk versionId version
  pointed : ∀ {versionId}, registry.activeId = some versionId →
    ∃ version, registry.versions.get? versionId = some version ∧ version.status = .active
  active : ∀ {versionId version}, registry.versions.get? versionId = some version →
    version.status = .active → registry.activeId = some versionId

theorem get?_put (registry : PolicyRegistry host) (version : PolicyVersion host)
    (versionId : Uuid) :
    (registry.put version).versions.get? versionId =
      if versionId = version.versionId then some version
      else registry.versions.get? versionId :=
  get?_set _ _ _ _

/-- A version that is not the active one may be written, and does not become it. -/
structure Inactive (registry : PolicyRegistry host) (version : PolicyVersion host) : Prop where
  ok : VersionOk version.versionId version
  status : version.status ≠ .active
  pointer : registry.activeId ≠ some version.versionId

theorem Consistent.put (h : Consistent registry) (hinactive : Inactive registry version) :
    Consistent (registry.put version) where
  versions := by
    intro versionId other hother
    rw [get?_put] at hother
    split_ifs at hother with hid
    · rw [← Option.some.inj hother, hid]
      exact hinactive.ok
    · exact h.versions hother
  pointed := by
    intro versionId hpointed
    obtain ⟨other, hother, hactive⟩ := h.pointed hpointed
    refine ⟨other, ?_, hactive⟩
    rw [get?_put, if_neg]
    · exact hother
    · rintro rfl
      exact hinactive.pointer hpointed
  active := by
    intro versionId other hother hactive
    rw [get?_put] at hother
    split_ifs at hother with hid
    · rw [← Option.some.inj hother] at hactive
      exact absurd hactive hinactive.status
    · exact h.active hother hactive

theorem Consistent.create (h : Consistent registry) {policy : PolicyV1} {createdBy : Str}
    {created : PolicyVersion host} (hfresh : registry.versions.get? versionId = none)
    (hcreate : registry.create policy createdBy versionId now = .ok (created, after)) :
    ∃ version, version.versionId = versionId ∧ Inactive registry version ∧
      after = registry.put version := by
  obtain ⟨policyHash, hashed, rfl⟩ := create_cases hcreate
  refine ⟨draft policy policyHash hashed createdBy versionId now, rfl,
    ⟨⟨rfl, List.nodup_nil, fun _ => Nat.two_pos, nofun⟩, nofun, ?_⟩, rfl⟩
  intro hpointed
  obtain ⟨version, hversion, _⟩ := h.pointed hpointed
  exact absurd (hfresh.symm.trans hversion) nofun

theorem VersionOk.approve (h : VersionOk versionId version) (administratorId : Str) :
    VersionOk versionId { version with
      approvals := addApproval version.approvals administratorId
      status := if 2 ≤ (addApproval version.approvals administratorId).length then .approved
        else version.status } where
  keyed := h.keyed
  distinct := by
    dsimp only
    unfold addApproval
    split_ifs with hmem
    · exact h.distinct
    · exact List.nodup_append.mpr ⟨h.distinct, List.nodup_singleton _, by
        rintro a ha b hb rfl
        exact hmem (List.mem_singleton.mp hb ▸ ha)⟩
  draft := by
    dsimp only
    intro hdraft
    by_contra hmany
    rw [if_pos (not_lt.mp hmany)] at hdraft
    cases hdraft
  approved := by
    dsimp only
    intro hstatus
    by_contra hfew
    rw [if_neg hfew] at hstatus
    have hlength : version.approvals.length ≤
        (addApproval version.approvals administratorId).length := by
      unfold addApproval
      split_ifs
      · exact le_refl _
      · rw [List.length_append]
        omega
    have hbefore := h.approved hstatus
    omega

theorem Consistent.approve (h : Consistent registry) {administratorId : Str}
    {approved : PolicyVersion host}
    (happrove : registry.approve versionId administratorId = .ok (approved, after)) :
    Inactive registry approved ∧ after = registry.put approved := by
  obtain ⟨version, hget, hactive, _, rfl, hafter⟩ := approve_cases happrove
  have hok := h.versions hget
  have happroved := hok.approve administratorId
  refine ⟨⟨happroved.keyed.symm ▸ happroved, ?_, ?_⟩, hafter⟩
  · dsimp only
    split_ifs
    · exact nofun
    · exact hactive
  · intro hpointed
    obtain ⟨found, hfound, hstatus⟩ := h.pointed hpointed
    have hkeyed : version.versionId = versionId := hok.keyed
    dsimp only at hfound
    rw [hkeyed, hget] at hfound
    rw [← Option.some.inj hfound] at hstatus
    exact hactive hstatus

/-- After retiring no version but the one to activate is active. -/
theorem Consistent.retire (h : Consistent registry)
    (hretire : registry.retire versionId = .ok retired) :
    (∀ {otherId other}, retired.versions.get? otherId = some other → VersionOk otherId other) ∧
      ∀ {otherId other}, otherId ≠ versionId → retired.versions.get? otherId = some other →
        other.status ≠ .active := by
  rcases retire_cases hretire with
    ⟨hpointer, rfl⟩ | ⟨activeId, active, hpointed, hne, hactive, rfl⟩
  · refine ⟨h.versions, ?_⟩
    intro otherId other hother hfound hstatus
    have hpoints := h.active hfound hstatus
    rcases hpointer with hnone | hsame
    · rw [hnone] at hpoints
      cases hpoints
    · rw [hsame] at hpoints
      exact hother (Option.some.inj hpoints).symm
  · have hok := h.versions hactive
    have hmany : 2 ≤ active.approvals.length := by
      obtain ⟨found, hfound, hstatus⟩ := h.pointed hpointed
      have hsame : some active = some found := hactive.symm.trans hfound
      rw [Option.some.inj hsame]
      apply (h.versions hfound).approved
      rw [hstatus]
      exact PolicyStatus.noConfusion
    constructor
    · intro otherId other hother
      rw [get?_put] at hother
      split_ifs at hother with hid
      · rw [← Option.some.inj hother, hid]
        exact ⟨rfl, hok.distinct, PolicyStatus.noConfusion, fun _ => hmany⟩
      · exact h.versions hother
    · intro otherId other _ hother hstatus
      rw [get?_put] at hother
      split_ifs at hother with hid
      · rw [← Option.some.inj hother] at hstatus
        cases hstatus
      · have hpoints := h.active hother hstatus
        rw [hpointed] at hpoints
        apply hid
        rw [← Option.some.inj hpoints]
        exact hok.keyed.symm

theorem Consistent.activate (h : Consistent registry) {activatedBy : Str}
    {activated : PolicyVersion host}
    (hactivate : registry.activate versionId activatedBy now = .ok (activated, after)) :
    Consistent after ∧ after.activeId = some versionId := by
  obtain ⟨version, retired, hget, happrovals, hretire, rfl, rfl⟩ := activate_cases hactivate
  obtain ⟨hversions, hinactive⟩ := h.retire hretire
  have hversion := h.versions hget
  have hkeyed := hversion.keyed
  refine ⟨⟨?_, ?_, ?_⟩, rfl⟩
  · intro otherId other hother
    rw [get?_put] at hother
    split_ifs at hother with hid
    · rw [← Option.some.inj hother, hid]
      exact ⟨rfl, hversion.distinct, PolicyStatus.noConfusion, fun _ => happrovals⟩
    · exact hversions hother
  · intro otherId hpointed
    rw [← Option.some.inj hpointed]
    refine ⟨{ version with
      status := .active, activatedAt := some now, activatedBy := some activatedBy }, ?_, rfl⟩
    rw [get?_put, if_pos hkeyed.symm]
  · intro otherId other hother hstatus
    rw [get?_put] at hother
    split_ifs at hother with hid
    · rw [hid]
      exact congrArg some hkeyed.symm
    · exact absurd hstatus (hinactive (fun heq => hid (heq.trans hkeyed.symm)) hother)

/-! ## Runs -/

/-- What holds after every call: the pointer is set by the first activation. -/
structure Governed (governance : Governance host) : Prop where
  consistent : Consistent governance.registry
  history : governance.registry.activeId = none ↔ governance.activated = []

theorem governed_new : Governed (Governance.new : Governance host) where
  consistent := ⟨nofun, nofun, nofun⟩
  history := ⟨fun _ => rfl, fun _ => rfl⟩

variable {before : Governance host}

theorem governed_step {after : Governance host} {call : RegistryCall} (h : Governed before)
    (hstep : Run.Guarded Fresh Governance.perform before call after) : Governed after := by
  obtain ⟨hfresh, rfl⟩ := hstep
  cases call with
  | create policy createdBy versionId now =>
    unfold Governance.perform
    dsimp only
    split
    · rename_i created registry hcreate
      obtain ⟨version, _, hinactive, rfl⟩ := h.consistent.create hfresh hcreate
      exact ⟨h.consistent.put hinactive, h.history⟩
    · exact h
  | approve versionId administratorId =>
    unfold Governance.perform
    dsimp only
    split
    · rename_i approved registry happrove
      obtain ⟨hinactive, rfl⟩ := h.consistent.approve happrove
      exact ⟨h.consistent.put hinactive, h.history⟩
    · exact h
  | activate versionId activatedBy now =>
    unfold Governance.perform
    dsimp only
    split
    · rename_i activated registry hactivate
      obtain ⟨hconsistent, hpointer⟩ := h.consistent.activate hactivate
      refine ⟨hconsistent, ?_⟩
      dsimp only
      rw [hpointer]
      exact ⟨nofun, fun hnil => absurd hnil (List.append_ne_nil_of_right_ne_nil _ nofun)⟩
    · exact h

theorem governed_run {trace : List RegistryCall} {governance : Governance host}
    (hrun : RegistryRun Governance.new trace governance) : Governed governance :=
  hrun.invariant (I := fun _ => Governed) governed_new fun _ => governed_step

/-! ## Approvals of activated versions -/

/-- The version is or was the active one. -/
def WasActivated (version : PolicyVersion host) : Prop :=
  version.status = .active ∨ version.status = .retired

instance (version : PolicyVersion host) : Decidable (WasActivated version) :=
  inferInstanceAs (Decidable (_ ∨ _))

/-- A version that was activated stays so, with the approvals that it had. -/
def ApprovalsKept (before after : PolicyRegistry host) : Prop :=
  ∀ ⦃versionId version⦄, before.versions.get? versionId = some version → WasActivated version →
    ∃ kept, after.versions.get? versionId = some kept ∧ WasActivated kept ∧
      kept.approvals = version.approvals

theorem ApprovalsKept.refl (registry : PolicyRegistry host) : ApprovalsKept registry registry :=
  fun _ version hversion hwas => ⟨version, hversion, hwas, rfl⟩

theorem ApprovalsKept.trans {first second third : PolicyRegistry host}
    (h : ApprovalsKept first second) (h' : ApprovalsKept second third) :
    ApprovalsKept first third := by
  intro versionId version hversion hwas
  obtain ⟨kept, hkept, hkeptWas, hsame⟩ := h hversion hwas
  obtain ⟨last, hlast, hlastWas, hlastSame⟩ := h' hkept hkeptWas
  exact ⟨last, hlast, hlastWas, hlastSame.trans hsame⟩

/-- Writing a version keeps the others, so only what it replaces matters. -/
theorem approvalsKept_put (registry : PolicyRegistry host) (version : PolicyVersion host)
    (h : ∀ replaced, registry.versions.get? version.versionId = some replaced →
      WasActivated replaced → WasActivated version ∧ version.approvals = replaced.approvals) :
    ApprovalsKept registry (registry.put version) := by
  intro versionId before hbefore hwas
  by_cases hid : versionId = version.versionId
  · subst hid
    obtain ⟨hactivated, hsame⟩ := h before hbefore hwas
    exact ⟨version, by rw [get?_put, if_pos rfl], hactivated, hsame⟩
  · exact ⟨before, by rw [get?_put, if_neg hid]; exact hbefore, hwas, rfl⟩

theorem approvalsKept_retire (h : Consistent registry)
    (hretire : registry.retire versionId = .ok retired) : ApprovalsKept registry retired := by
  rcases retire_cases hretire with ⟨_, rfl⟩ | ⟨activeId, active, _, _, hactive, rfl⟩
  · exact .refl _
  · apply approvalsKept_put
    intro replaced hreplaced _
    have hkeyed : active.versionId = activeId := (h.versions hactive).keyed
    dsimp only at hreplaced
    rw [hkeyed, hactive] at hreplaced
    rw [← Option.some.inj hreplaced]
    exact ⟨Or.inr rfl, rfl⟩

theorem approvalsKept_step {after : Governance host} {call : RegistryCall} (h : Governed before)
    (hstep : Run.Guarded Fresh Governance.perform before call after) :
    ApprovalsKept before.registry after.registry := by
  obtain ⟨hfresh, rfl⟩ := hstep
  cases call with
  | create policy createdBy versionId now =>
    unfold Governance.perform
    dsimp only
    split
    · rename_i created registry hcreate
      have hnone : before.registry.versions.get? versionId = none := hfresh
      obtain ⟨version, hid, _, rfl⟩ := h.consistent.create hnone hcreate
      apply approvalsKept_put
      intro replaced hreplaced
      rw [hid, hnone] at hreplaced
      cases hreplaced
    · exact .refl _
  | approve versionId administratorId =>
    unfold Governance.perform
    dsimp only
    split
    · rename_i approved registry happrove
      obtain ⟨version, hget, hactive, hretired, rfl, rfl⟩ := approve_cases happrove
      apply approvalsKept_put
      intro replaced hreplaced hwas
      have hkeyed : version.versionId = versionId := (h.consistent.versions hget).keyed
      dsimp only at hreplaced
      rw [hkeyed, hget] at hreplaced
      rw [← Option.some.inj hreplaced] at hwas
      rcases hwas with hwas | hwas
      · exact absurd hwas hactive
      · exact absurd hwas hretired
    · exact .refl _
  | activate versionId activatedBy now =>
    unfold Governance.perform
    dsimp only
    split
    · rename_i activated registry hactivate
      obtain ⟨version, retired, hget, _, hretire, rfl, rfl⟩ := activate_cases hactivate
      have hkeyed : version.versionId = versionId := (h.consistent.versions hget).keyed
      apply (approvalsKept_retire h.consistent hretire).trans
      apply approvalsKept_put
      intro replaced hreplaced _
      have hretired : retired.versions.get? versionId = some version := by
        rcases retire_cases hretire with ⟨_, rfl⟩ | ⟨activeId, active, _, hne, hactive, rfl⟩
        · exact hget
        · have hactiveKeyed : active.versionId = activeId :=
            (h.consistent.versions hactive).keyed
          rw [get?_put, if_neg]
          · exact hget
          · dsimp only
            rw [hactiveKeyed]
            exact hne.symm
      dsimp only at hreplaced
      rw [hkeyed, hretired] at hreplaced
      rw [← Option.some.inj hreplaced]
      exact ⟨Or.inl rfl, rfl⟩
    · exact .refl _

theorem approvalsKept_run {trace : List RegistryCall} {after : Governance host}
    (h : Governed before) (hrun : RegistryRun before trace after) :
    ApprovalsKept before.registry after.registry := by
  have hboth : Governed after ∧ ApprovalsKept before.registry after.registry :=
    hrun.invariant (I := fun _ g => Governed g ∧ ApprovalsKept before.registry g.registry)
      ⟨h, .refl _⟩ fun _ hg hstep =>
        ⟨governed_step hg.1 hstep, hg.2.trans (approvalsKept_step hg.1 hstep)⟩
  exact hboth.2

/-! ## The active version -/

theorem active_eq_ok_iff (h : Consistent registry) (version : PolicyVersion host) :
    registry.active = .ok version ↔
      registry.versions.get? version.versionId = some version ∧ version.status = .active := by
  rw [active, orRaise_bind_eq_ok]
  constructor
  · rintro ⟨activeId, hpointed, hget⟩
    rw [get_eq_ok] at hget
    obtain ⟨found, hfound, hstatus⟩ := h.pointed hpointed
    rw [hget] at hfound
    rw [(h.versions hget).keyed]
    exact ⟨hget, (Option.some.inj hfound).symm ▸ hstatus⟩
  · rintro ⟨hget, hstatus⟩
    exact ⟨version.versionId, h.active hget hstatus, get_eq_ok.mpr hget⟩

theorem active_raises_iff (h : Consistent registry) :
    (∃ error, registry.active = .error error) ↔ registry.activeId = none := by
  constructor
  · rintro ⟨error, herror⟩
    by_contra hpointed
    obtain ⟨activeId, hpointed⟩ := Option.ne_none_iff_exists'.mp hpointed
    obtain ⟨version, hversion, hstatus⟩ := h.pointed hpointed
    have hkeyed := (h.versions hversion).keyed
    have hactive := (active_eq_ok_iff h version).mpr ⟨hkeyed.symm ▸ hversion, hstatus⟩
    rw [hactive] at herror
    cases herror
  · intro hnone
    refine ⟨.lookupError "no active policy".toList, ?_⟩
    rw [active, hnone]
    rfl

/-- What a registry says about its versions, whatever calls made it. -/
structure WellFormed (governance : Governance host) : Prop where
  atMostOneActive : ∀ {versionId version otherId other},
    governance.registry.versions.get? versionId = some version → version.status = .active →
    governance.registry.versions.get? otherId = some other → other.status = .active →
    versionId = otherId
  active_iff : ∀ version, governance.registry.active = .ok version ↔
    governance.registry.versions.get? version.versionId = some version ∧
      version.status = .active
  keyed : ∀ {versionId version},
    governance.registry.versions.get? versionId = some version → version.versionId = versionId
  raises_iff : (∃ error, governance.registry.active = .error error) ↔ governance.activated = []
  approvers : ∀ {versionId version},
    governance.registry.versions.get? versionId = some version → version.approvals.Nodup
  draft : ∀ {versionId version}, governance.registry.versions.get? versionId = some version →
    version.status = .draft → version.approvals.length < 2
  approved : ∀ {versionId version}, governance.registry.versions.get? versionId = some version →
    version.status = .approved → 2 ≤ version.approvals.length
  activated : ∀ {versionId version}, governance.registry.versions.get? versionId = some version →
    WasActivated version → 2 ≤ version.approvals.length

theorem Governed.wellFormed {governance : Governance host} (h : Governed governance) :
    WellFormed governance where
  atMostOneActive := by
    intro versionId version otherId other hversion hactive hother hotherActive
    have hpointed := h.consistent.active hversion hactive
    rw [h.consistent.active hother hotherActive] at hpointed
    exact (Option.some.inj hpointed).symm
  active_iff := active_eq_ok_iff h.consistent
  keyed := fun hversion => (h.consistent.versions hversion).keyed
  raises_iff := (active_raises_iff h.consistent).trans h.history
  approvers := fun hversion => (h.consistent.versions hversion).distinct
  draft := fun hversion => (h.consistent.versions hversion).draft
  approved := by
    intro versionId version hversion hstatus
    apply (h.consistent.versions hversion).approved
    rw [hstatus]
    exact nofun
  activated := by
    intro versionId version hversion hwas
    apply (h.consistent.versions hversion).approved
    rcases hwas with hstatus | hstatus
    all_goals
      rw [hstatus]
      exact nofun

/-- Every sequence of calls leaves a well-formed registry, and no later call touches the
approvals of a version that was activated. -/
theorem registry_wellFormed {trace later : List RegistryCall} {governance after : Governance host}
    (hrun : RegistryRun Governance.new trace governance)
    (hlater : RegistryRun governance later after) :
    WellFormed governance ∧ ApprovalsKept governance.registry after.registry :=
  ⟨(governed_run hrun).wellFormed, approvalsKept_run (governed_run hrun) hlater⟩

open ServiceLedger SignedEffect

instance (governance : Governance host) (call : RegistryCall) : Decidable (Fresh governance call) :=
  match call with
  | .create _ _ versionId _ =>
    inferInstanceAs (Decidable (governance.registry.versions.get? versionId = none))
  | .approve _ _ => .isTrue trivial
  | .activate _ _ _ => .isTrue trivial

/-- The calls that put a policy in force; the first administrator approves it twice, and the
first activation comes too early. -/
def rollout (policy : PolicyV1) (versionId : Uuid) : List RegistryCall := [
  .create policy "author".toList versionId sampleNow,
  .approve versionId "administrator-1".toList,
  .approve versionId "administrator-1".toList,
  .activate versionId "administrator-1".toList sampleNow,
  .approve versionId "administrator-2".toList,
  .activate versionId "administrator-1".toList sampleNow]

def rolledOut : Governance serviceHost :=
  (rollout widePolicy wideVersionId ++ rollout tightPolicy tightVersionId).foldl
    Governance.perform .new

/-- The first policy comes back, and an approval for it is refused. -/
def rollback : List RegistryCall := [
  .activate wideVersionId "administrator-2".toList sampleNow,
  .approve wideVersionId "administrator-3".toList]

theorem rollout_wellFormed :
    rolledOut.activated = [wideVersionId, tightVersionId] ∧ WellFormed rolledOut ∧
      ApprovalsKept rolledOut.registry (rollback.foldl Governance.perform rolledOut).registry := by
  have hfollows : rolledOut.activated = [wideVersionId, tightVersionId] ∧
      Run.Follows Fresh Governance.perform (.new : Governance serviceHost)
        (rollout widePolicy wideVersionId ++ rollout tightPolicy tightVersionId) ∧
      Run.Follows Fresh Governance.perform rolledOut rollback := by
    decide +kernel
  exact ⟨hfollows.1, registry_wellFormed hfollows.2.1.run hfollows.2.2.run⟩

end AegisLedger.Gateway.PolicyVersions
