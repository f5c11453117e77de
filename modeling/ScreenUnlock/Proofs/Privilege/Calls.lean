/-
How giving up rights runs and fails: the calls that are made, and what each
result means.

A plan is a list of calls that must succeed (`Ids.switchCalls`), then the
check, then the probe. It stops at the first call of the list that fails, so
the calls made are always the first ones of the list, and the process is what
exactly these calls make of it (`after`). A failure of the list is its last
call (`requireAll_inv`); once the list is through, the result is that of the
check and of the probe.

# Without a fault

Nothing that a plan asks for is refused by a system without faults, whether
root or another user is the effective one. Root may call for anything, and
anybody may take an id that it has already. After the change the process is
the invoker, not capable and without an id of root, so the probe is refused.
-/
import ScreenUnlock.Proofs.Privilege.Drop

namespace ScreenUnlock

/-- The calls of a plan that must succeed. The further groups are given up
first if root is the effective user. -/
def Ids.switchCalls (ids : Ids) : List IdCall :=
  (if ids.effectiveUser = rootId then [.setgroups ids.realGroup] else [])
    ++ [.setresgid ids.realGroup ids.realGroup ids.realGroup,
      .setresuid ids.realUser ids.realUser ids.realUser]

/-- The attempt to become root again. -/
def IdCall.probe : IdCall := .setuid rootId

theorem Ids.mem_switchCalls {ids : Ids} {wanted : IdCall}
    (h : wanted ∈ ids.switchCalls) :
    wanted = .setgroups ids.realGroup
      ∨ wanted = .setresgid ids.realGroup ids.realGroup ids.realGroup
      ∨ wanted = .setresuid ids.realUser ids.realUser ids.realUser := by
  unfold switchCalls at h
  split at h
  · simpa using h
  · exact .inr (by simpa using h)

theorem Ids.probe_not_mem (ids : Ids) : IdCall.probe ∉ ids.switchCalls := by
  intro hmem
  rcases mem_switchCalls hmem with h | h | h <;> cases h

namespace Credentials

variable {ids : Ids} {faults : IdFaults} {creds creds' : Credentials}
  {wanted : IdCall} {failure : Option Errno} {calls : List IdCall}

-- ======================================================== call after call

/-- The process after these calls, whatever comes of them. -/
def after (creds : Credentials) (calls : List IdCall) : Credentials :=
  calls.foldl (fun creds wanted => (creds.call wanted).2) creds

theorem after_concat (creds : Credentials) (calls : List IdCall)
    (wanted : IdCall) :
    creds.after (calls ++ [wanted]) = ((creds.after calls).call wanted).2 := by
  unfold after
  rw [List.foldl_append]
  rfl

theorem call_of_made (h : Made creds wanted failure creds') :
    creds.call wanted = (failure, creds') := by
  unfold call
  cases h with
  | failed hfailure => rw [hfailure]
  | done hnone => rw [hnone]

theorem after_cons {made : Credentials} (hmade : Made creds wanted failure made)
    (calls : List IdCall) :
    creds.after (wanted :: calls) = made.after calls := by
  unfold after
  rw [List.foldl_cons, call_of_made hmade]

/-- These calls are made and all of them succeed. -/
def Succeed (creds : Credentials) (calls : List IdCall) : Prop :=
  (creds.after calls).calls = creds.calls ++ calls.map (⟨·, none⟩)

theorem succeed_nil (creds : Credentials) : creds.Succeed [] :=
  (List.append_nil _).symm

theorem Succeed.cons {made : Credentials} (hmade : Made creds wanted none made)
    (h : made.Succeed calls) : creds.Succeed (wanted :: calls) := by
  unfold Succeed at h ⊢
  rw [after_cons hmade, h, hmade.calls]
  simp

/-- Make calls that must succeed, one after the other. -/
def requireAll (next : Credentials → Except StartError Unit × Credentials) :
    List IdCall → Credentials → Except StartError Unit × Credentials
  | [], creds => next creds
  | wanted :: calls, creds => creds.require wanted (requireAll next calls)

/-- A plan is such a list, and then the check. -/
theorem carryOut_eq (creds : Credentials) (ids : Ids) :
    creds.carryOut (.switchTo ids.realUser ids.realGroup
        (decide (ids.effectiveUser = rootId)))
      = requireAll (fun creds => creds.confirm ids.realUser ids.realGroup)
        ids.switchCalls creds := by
  unfold carryOut Ids.switchCalls
  by_cases hroot : ids.effectiveUser = rootId
  · simp only [hroot, decide_true, if_true]
    rfl
  · simp only [hroot, decide_false, if_false]
    rfl

/-- The first call that fails is the last one; or all of them succeed. -/
theorem requireAll_inv {result : Except StartError Unit}
    {next : Credentials → Except StartError Unit × Credentials}
    (h : requireAll next calls creds = (result, creds')) :
    (∃ before wanted rest cause, calls = before ++ wanted :: rest
        ∧ creds.Succeed before
        ∧ Made (creds.after before) wanted (some cause) creds'
        ∧ result = .error (.dropFailed cause))
      ∨ (creds.Succeed calls
        ∧ next (creds.after calls) = (result, creds')) := by
  induction calls generalizing creds with
  | nil => exact .inr ⟨succeed_nil creds, h⟩
  | cons wanted calls ih =>
      rcases require_inv h with ⟨cause, hmade, rfl⟩ | ⟨made, hmade, hrest⟩
      · exact .inl ⟨[], wanted, calls, cause, rfl, succeed_nil creds, hmade,
          rfl⟩
      rcases ih hrest with ⟨before, other, rest, cause, rfl, hbefore, hother,
        hresult⟩ | ⟨hall, hnext⟩
      · refine .inl ⟨wanted :: before, other, rest, cause, rfl,
          .cons hmade hbefore, ?_, hresult⟩
        rw [after_cons hmade]
        exact hother
      · refine .inr ⟨.cons hmade hall, ?_⟩
        rw [after_cons hmade]
        exact hnext

-- =========================================================== the real ids

/-- The real ids are the ones that the plan goes back to. -/
def KeepsReal (ids : Ids) (creds : Credentials) : Prop :=
  creds.users.real = ids.realUser ∧ creds.groups.real = ids.realGroup

theorem Made.keepsReal (h : Made creds wanted failure creds')
    (hmem : wanted ∈ ids.switchCalls) (hreal : KeepsReal ids creds) :
    KeepsReal ids creds' := by
  unfold KeepsReal at hreal ⊢
  cases failure with
  | some cause =>
      obtain ⟨husers, hgroups, -⟩ := h.unchanged
      rwa [husers, hgroups]
  | none =>
      rcases Ids.mem_switchCalls hmem with rfl | rfl | rfl
      · obtain ⟨husers, hgroups, -⟩ := h.of_setgroups
        rwa [husers, hgroups]
      · obtain ⟨hgroups | hgroups, husers, -⟩ := h.of_setresgid
        · rwa [husers, hgroups]
        · rw [husers, hgroups]
          exact ⟨hreal.1, rfl⟩
      · obtain ⟨⟨husers, -⟩ | ⟨husers, -⟩, hgroups⟩ := h.of_setresuid
        · rwa [husers, hgroups]
        · rw [husers, hgroups]
          exact ⟨rfl, hreal.2⟩

theorem KeepsReal.after (h : KeepsReal ids creds)
    (hmem : ∀ wanted ∈ calls, wanted ∈ ids.switchCalls) :
    KeepsReal ids (creds.after calls) := by
  induction calls generalizing creds with
  | nil => exact h
  | cons wanted calls ih =>
      have hmade : Made creds wanted (creds.call wanted).1
          (creds.call wanted).2 := made_of_call rfl
      exact ih (hmade.keepsReal (hmem _ (.head _)) h)
        fun other hother => hmem other (.tail _ hother)

theorem keepsReal_start (ids : Ids) (faults : IdFaults) :
    KeepsReal ids (start ids faults) := ⟨rfl, rfl⟩

/-- The check finds a difference exactly if the process is privileged. -/
theorem KeepsReal.isPrivileged_iff (h : KeepsReal ids creds) :
    creds.ids.isPrivileged = true ↔ creds.users.effective ≠ ids.realUser
      ∨ creds.groups.effective ≠ ids.realGroup := by
  unfold Ids.isPrivileged Credentials.ids
  rw [h.1, h.2, Bool.or_eq_true, decide_eq_true_eq, decide_eq_true_eq]

-- ========================================================= the whole plan

/-- How making a plan and carrying it out can go, call by call. -/
inductive Ran (ids : Ids) (creds : Credentials) :
    Except StartError DropPlan → Credentials → Prop where
  | root : ids.realUser = rootId → Ran ids creds (.error .runningAsRoot) creds
  | keep : ids.realUser ≠ rootId → ids.isPrivileged = false →
      Ran ids creds (.ok .keep) creds
  -- A call fails that must succeed.
  | stopped {before rest : List IdCall} {wanted : IdCall} {cause : Errno}
      {creds' : Credentials} : ids.realUser ≠ rootId →
      ids.isPrivileged = true → ids.switchCalls = before ++ wanted :: rest →
      creds.Succeed before →
      Made (creds.after before) wanted (some cause) creds' →
      Ran ids creds (.error (.dropFailed cause)) creds'
  -- All of them succeed, and the process is still privileged.
  | differs : ids.realUser ≠ rootId → ids.isPrivileged = true →
      creds.Succeed ids.switchCalls →
      (creds.after ids.switchCalls).ids.isPrivileged = true →
      Ran ids creds (.error .regainedPrivileges)
        (creds.after ids.switchCalls)
  | probed {failure : Option Errno} {creds' : Credentials} :
      ids.realUser ≠ rootId → ids.isPrivileged = true →
      creds.Succeed ids.switchCalls →
      (creds.after ids.switchCalls).ids.isPrivileged = false →
      Made (creds.after ids.switchCalls) .probe failure creds' →
      Ran ids creds
        (match failure with
          | none => .error .regainedPrivileges
          | some _ => .ok (.switchTo ids.realUser ids.realGroup
            (decide (ids.effectiveUser = rootId))))
        creds'

theorem ran_of_drop {result : Except StartError DropPlan}
    (h : (start ids faults).drop = (result, creds')) :
    Ran ids (start ids faults) result creds' := by
  have hids : (start ids faults).ids = ids := rfl
  unfold drop at h
  rw [hids] at h
  rcases DropPlan.ofIds_cases ids with ⟨hroot, hplan⟩
    | ⟨hroot, hprivileged, hplan⟩ | ⟨hroot, hprivileged, hplan⟩
  · rw [hplan] at h
    cases h
    exact .root hroot
  · rw [hplan] at h
    cases h
    exact .keep hroot hprivileged
  rw [hplan] at h
  simp only at h
  rcases hcarry : (start ids faults).carryOut (.switchTo ids.realUser
    ids.realGroup (decide (ids.effectiveUser = rootId))) with ⟨outcome, after⟩
  rw [hcarry] at h
  rw [carryOut_eq] at hcarry
  rcases requireAll_inv hcarry with ⟨before, wanted, rest, cause, hcut,
    hbefore, hmade, rfl⟩ | ⟨hall, hcheck⟩
  · cases h
    exact .stopped hroot hprivileged hcut hbefore hmade
  have hreal := (keepsReal_start ids faults).after fun _ hmem => hmem
  rcases confirm_inv hcheck with ⟨hdiffers, rfl, rfl⟩
    | ⟨huser, hgroup, hprobe⟩
  · cases h
    exact .differs hroot hprivileged hall (hreal.isPrivileged_iff.mpr hdiffers)
  have hsame : ((start ids faults).after ids.switchCalls).ids.isPrivileged
      = false := by
    rw [← Bool.not_eq_true, hreal.isPrivileged_iff]
    exact not_or.mpr ⟨fun hne => hne huser, fun hne => hne hgroup⟩
  rcases hprobe with ⟨hmade, rfl⟩ | ⟨cause, hmade, rfl⟩
  · cases h
    exact .probed hroot hprivileged hall hsame hmade
  · cases h
    exact .probed hroot hprivileged hall hsame hmade

-- ======================================================== without a fault

section Faultless

variable (hfaults : creds.faults = {})

include hfaults

/-- Without a fault a call fails only if it is refused. -/
theorem Made.refusal?_eq (h : Made creds wanted failure creds') :
    creds.refusal? wanted = failure := by
  have hfailure : creds.failure? wanted = creds.refusal? wanted := by
    unfold failure?
    rw [hfaults]
    rfl
  cases h with
  | failed hcause => exact hfailure.symm.trans hcause
  | done hnone => exact hfailure.symm.trans hnone

theorem Made.groups_eq_all {group : IdNumber}
    (h : Made creds (.setresgid group group group) none creds') :
    creds'.groups = .all group := by
  cases h
  simp [effect, hfaults, IdTriple.all]

theorem Made.users_eq_all {user : IdNumber}
    (h : Made creds (.setresuid user user user) none creds') :
    creds'.users = .all user ∧ creds'.capable = decide (user = rootId) := by
  cases h
  simp [effect, withUsers, hfaults, IdTriple.all]

/-- A change to ids that the process has already is confirmed. -/
theorem Switched.ok_of_faultless {user group : IdNumber}
    {result : Except StartError Unit}
    (h : Switched creds user group result creds') (hroot : user ≠ rootId)
    (huser : creds.users.real = user) (hgroup : creds.groups.real = group) :
    result = .ok () := by
  have hgroupAllowed :
      creds.refusal? (.setresgid group group group) = none := by
    simp [refusal?, IdTriple.has, hgroup]
  have huserAllowed : ∀ {grouped : Credentials},
      grouped.users = creds.users →
      grouped.refusal? (.setresuid user user user) = none := by
    intro grouped hsame
    simp [refusal?, IdTriple.has, hsame, huser]
  cases h with
  | noGroup hmade =>
      cases (hmade.refusal?_eq hfaults).symm.trans hgroupAllowed
  | noUser hgrouped hmade =>
      have hsame := hgrouped.of_setresgid.2.1
      have hrefusal := hmade.refusal?_eq (hgrouped.faults.trans hfaults)
      cases hrefusal.symm.trans (huserAllowed hsame)
  | differs hgrouped hchanged hdiffers =>
      have husers := hchanged.users_eq_all (hgrouped.faults.trans hfaults)
      have hgroups := hgrouped.groups_eq_all hfaults
      rw [husers.1, hchanged.of_setresuid.2, hgroups] at hdiffers
      exact (hdiffers.elim (fun hne => hne rfl) fun hne => hne rfl).elim
  | regained hgrouped hchanged _ _ hprobe =>
      have hgroupedFaults := hgrouped.faults.trans hfaults
      obtain ⟨husers, hcapable⟩ := hchanged.users_eq_all hgroupedFaults
      have hrefusal := hprobe.refusal?_eq
        (hchanged.faults.trans hgroupedFaults)
      rw [refusal?_setuid_eq_none_iff (by rw [husers]; exact hroot)
        (by rw [husers]; exact hroot), hcapable, decide_eq_true_eq] at hrefusal
      exact absurd hrefusal hroot
  | confirmed => rfl

end Faultless

/-- Whoever is not root gives up all rights on a system without a fault. -/
theorem drop_of_faultless (ids : Ids) (hroot : ids.realUser ≠ rootId) :
    ∃ plan, (start ids {}).drop.1 = .ok plan := by
  have hfaults : (start ids {}).faults = {} := rfl
  rcases hdrop : (start ids {}).drop with ⟨result, creds'⟩
  cases dropped_of_drop hdrop with
  | root hisRoot => exact absurd hisRoot hroot
  | keep => exact ⟨_, rfl⟩
  | noGroups _ heffective hmade =>
      have hcapable : (start ids {}).capable = true := by
        have : ids.effectiveUser = rootId := heffective
        simp [start, this]
      have hrefusal := hmade.refusal?_eq hfaults
      simp [refusal?, hcapable, hfaults] at hrefusal
  | failed _ _ hcleared hswitched =>
      obtain ⟨husers, hgroups, -, hfaultsKept⟩ := hcleared.same
      cases hswitched.ok_of_faultless (hfaultsKept.trans hfaults) hroot
        (congrArg IdTriple.real husers) (congrArg IdTriple.real hgroups)
  | switched => exact ⟨_, rfl⟩

-- ============================================================== the result

/-- How a plan ends whose calls have all succeeded; `checked` is the process
then. -/
structure Checked (ids : Ids) (checked : Credentials)
    (result : Except StartError DropPlan) (creds' : Credentials) : Prop where
  -- A process that is still privileged makes no further call.
  untried : checked.ids.isPrivileged = true → creds' = checked
  tried : checked.ids.isPrivileged = false → creds' = checked.after [.probe]
  regained_iff : result = .error .regainedPrivileges ↔
    checked.ids.isPrivileged = true ∨ ⟨.probe, none⟩ ∈ creds'.calls
  ok : result ≠ .error .regainedPrivileges →
    result = .ok (.switchTo ids.realUser ids.realGroup
      (decide (ids.effectiveUser = rootId)))

/-- How a process gives up its rights: the calls it makes, and what the result
says of them. -/
structure Proceeds (ids : Ids) (faults : IdFaults)
    (result : Except StartError DropPlan) (creds' : Credentials) : Prop where
  -- The calls are the first ones of the plan, and nothing else changes the
  -- process.
  calls : creds'.calls.map IdCallRecord.call <+: ids.switchCalls ++ [.probe]
  process : creds'
    = (start ids faults).after (creds'.calls.map IdCallRecord.call)
  root : ids.realUser = rootId →
    result = .error .runningAsRoot ∧ creds'.calls = []
  keep : ids.realUser ≠ rootId → ids.isPrivileged = false →
    result = .ok .keep ∧ creds'.calls = []
  dropFailed_iff : ∀ cause, result = .error (.dropFailed cause) ↔
    ∃ wanted ∈ ids.switchCalls, ⟨wanted, some cause⟩ ∈ creds'.calls
  last : ∀ wanted ∈ ids.switchCalls, ∀ cause,
    ⟨wanted, some cause⟩ ∈ creds'.calls →
      creds'.calls.getLast? = some ⟨wanted, some cause⟩
  checked : ids.realUser ≠ rootId → ids.isPrivileged = true →
    (∀ cause, result ≠ .error (.dropFailed cause)) →
      (start ids faults).Succeed ids.switchCalls
        ∧ Checked ids ((start ids faults).after ids.switchCalls) result creds'
  faultless : faults = {} → ids.realUser ≠ rootId → ∃ plan, result = .ok plan

theorem map_call (calls : List IdCall) (failure : Option Errno) :
    (calls.map fun wanted => (⟨wanted, failure⟩ : IdCallRecord)).map
      IdCallRecord.call = calls := by
  rw [List.map_map]
  exact List.map_id calls

/-- No call that succeeded is one that failed. -/
theorem failed_not_mem {cause : Errno} (calls : List IdCall) :
    (⟨wanted, some cause⟩ : IdCallRecord) ∉ calls.map (⟨·, none⟩) := by
  simp

/-- The records of calls that succeeded and of one more. -/
theorem Succeed.calls_of_made (h : (start ids faults).Succeed calls)
    (hmade : Made ((start ids faults).after calls) wanted failure creds') :
    creds'.calls = calls.map (⟨·, none⟩) ++ [⟨wanted, failure⟩]
      ∧ creds' = (start ids faults).after
        (creds'.calls.map IdCallRecord.call) := by
  have hcalls : creds'.calls = calls.map (⟨·, none⟩) ++ [⟨wanted, failure⟩] := by
    rw [hmade.calls, h]
    rfl
  refine ⟨hcalls, ?_⟩
  rw [hcalls, List.map_append, map_call, List.map_singleton, after_concat,
    call_of_made hmade]

section Ran

variable {result : Except StartError DropPlan}

/-- Nobody makes a call who has nothing to give up. -/
theorem Ran.calls_eq_nil (h : Ran ids (start ids faults) result creds')
    (hkept : ids.realUser = rootId ∨ ids.isPrivileged = false) :
    creds'.calls = [] := by
  have hno : ids.realUser ≠ rootId → ids.isPrivileged = true → False := by
    intro hroot hprivileged
    rcases hkept with hisRoot | hsame
    · exact hroot hisRoot
    · cases hsame.symm.trans hprivileged
  cases h with
  | root | keep => rfl
  | stopped hroot hprivileged | differs hroot hprivileged
  | probed hroot hprivileged => exact (hno hroot hprivileged).elim

/-- The calls made are the first ones of the plan, and the process is what
they have made of it. -/
theorem Ran.calls_isPrefix (h : Ran ids (start ids faults) result creds') :
    creds'.calls.map IdCallRecord.call <+: ids.switchCalls ++ [.probe]
      ∧ creds' = (start ids faults).after
        (creds'.calls.map IdCallRecord.call) := by
  cases h with
  | root | keep => exact ⟨List.nil_prefix, rfl⟩
  | @stopped _ rest _ _ _ _ _ hcut hbefore hmade =>
      obtain ⟨hcalls, hafter⟩ := hbefore.calls_of_made hmade
      refine ⟨?_, hafter⟩
      rw [hcalls, List.map_append, map_call, hcut]
      exact ⟨rest ++ [.probe], by simp⟩
  | differs _ _ hall =>
      have hcalls : ((start ids faults).after ids.switchCalls).calls
          = ids.switchCalls.map (⟨·, none⟩) := hall
      rw [hcalls, map_call]
      exact ⟨List.prefix_append _ _, rfl⟩
  | probed _ _ hall _ hmade =>
      obtain ⟨hcalls, hafter⟩ := hall.calls_of_made hmade
      refine ⟨?_, hafter⟩
      rw [hcalls, List.map_append, map_call]
      exact List.prefix_rfl

/-- A call that had to succeed and failed is the last one, and its error the
result. -/
theorem Ran.of_failed (h : Ran ids (start ids faults) result creds')
    {cause : Errno} (hmem : wanted ∈ ids.switchCalls)
    (hfailed : ⟨wanted, some cause⟩ ∈ creds'.calls) :
    result = .error (.dropFailed cause)
      ∧ creds'.calls.getLast? = some ⟨wanted, some cause⟩ := by
  cases h with
  | root | keep => cases hfailed
  | stopped _ _ _ hbefore hmade =>
      rw [(hbefore.calls_of_made hmade).1] at hfailed ⊢
      rcases List.mem_append.mp hfailed with hdone | hlast
      · exact absurd hdone (failed_not_mem _)
      · cases List.mem_singleton.mp hlast
        exact ⟨rfl, List.getLast?_concat⟩
  | differs _ _ hall =>
      rw [show ((start ids faults).after ids.switchCalls).calls
        = ids.switchCalls.map (⟨·, none⟩) from hall] at hfailed
      exact absurd hfailed (failed_not_mem _)
  | probed _ _ hall _ hmade =>
      rw [(hall.calls_of_made hmade).1] at hfailed
      rcases List.mem_append.mp hfailed with hdone | hlast
      · exact absurd hdone (failed_not_mem _)
      · -- the probe is none of them
        cases List.mem_singleton.mp hlast
        exact absurd hmem ids.probe_not_mem

theorem Ran.exists_failed {cause : Errno}
    (h : Ran ids (start ids faults) (.error (.dropFailed cause)) creds') :
    ∃ wanted ∈ ids.switchCalls, ⟨wanted, some cause⟩ ∈ creds'.calls := by
  generalize hresult : (Except.error (.dropFailed cause) :
    Except StartError DropPlan) = result at h
  cases h with
  | @stopped _ _ wanted _ _ _ _ hcut hbefore hmade =>
      cases hresult
      refine ⟨wanted, hcut ▸ List.mem_append_right _ (.head _), ?_⟩
      rw [(hbefore.calls_of_made hmade).1]
      exact List.mem_append_right _ (.head _)
  | @probed failure => cases failure <;> cases hresult
  | root | keep | differs => cases hresult

/-- Without such a failure the check is reached. -/
theorem Ran.checked (h : Ran ids (start ids faults) result creds')
    (hroot : ids.realUser ≠ rootId) (hprivileged : ids.isPrivileged = true)
    (hnone : ∀ cause, result ≠ .error (.dropFailed cause)) :
    (start ids faults).Succeed ids.switchCalls
      ∧ Checked ids ((start ids faults).after ids.switchCalls) result
        creds' := by
  cases h with
  | root hisRoot => exact absurd hisRoot hroot
  | keep _ hsame => cases hsame.symm.trans hprivileged
  | stopped => exact absurd rfl (hnone _)
  | differs _ _ hall hstill =>
      refine ⟨hall, fun _ => rfl, fun hsame => ?_, ?_, fun hne => ?_⟩
      · cases hsame.symm.trans hstill
      · exact iff_of_true rfl (.inl hstill)
      · exact absurd rfl hne
  | @probed failure _ _ _ hall hsame hmade =>
      have hprobe : (⟨.probe, none⟩ : IdCallRecord) ∈ creds'.calls
          ↔ failure = none := by
        rw [(hall.calls_of_made hmade).1]
        simp [ids.probe_not_mem, eq_comm]
      refine ⟨hall, fun hstill => ?_, fun _ => ?_, ?_, fun hne => ?_⟩
      · cases hsame.symm.trans hstill
      · exact (after_cons hmade []).symm
      · rw [hprobe, hsame]
        cases failure <;> simp
      · cases failure with
        | none => exact absurd rfl hne
        | some cause => rfl

end Ran

/-- Giving up rights, for all ids and all faults: the calls made are the first
ones of the plan; it fails with the error of one of them exactly if that one
fails, which is the last call then; otherwise the rights could be had back
exactly if an effective id still differs from the real one or the process
became root again. Without a fault it succeeds for everybody but root. -/
theorem drop_proceeds (ids : Ids) (faults : IdFaults) :
    Proceeds ids faults (start ids faults).drop.1
      (start ids faults).drop.2 := by
  rcases hdrop : (start ids faults).drop with ⟨result, creds'⟩
  have hran := ran_of_drop hdrop
  obtain ⟨hcalls, hprocess⟩ := hran.calls_isPrefix
  refine ⟨hcalls, hprocess, fun hroot => ?_, fun hroot hsame => ?_,
    fun cause => ⟨fun hresult => ?_, ?_⟩, ?_, hran.checked, ?_⟩
  · refine ⟨?_, hran.calls_eq_nil (.inl hroot)⟩
    cases hran with
    | root => rfl
    | keep hne | stopped hne | differs hne | probed hne =>
        exact absurd hroot hne
  · refine ⟨?_, hran.calls_eq_nil (.inr hsame)⟩
    cases hran with
    | root hisRoot => exact absurd hisRoot hroot
    | keep => rfl
    | stopped _ hprivileged | differs _ hprivileged | probed _ hprivileged =>
        cases hsame.symm.trans hprivileged
  · dsimp only at hresult
    subst hresult
    exact hran.exists_failed
  · rintro ⟨wanted, hmem, hfailed⟩
    exact (hran.of_failed hmem hfailed).1
  · exact fun wanted hmem cause hfailed => (hran.of_failed hmem hfailed).2
  · rintro rfl hroot
    have hok := drop_of_faultless ids hroot
    rwa [hdrop] at hok

/-- A setuid program that may not change its group: the first call is made,
the second fails, and no other follows. -/
example :
    (start ⟨1000, 0, 100, 100⟩
      { failing := [(.setresgid, .invalidArgument)] }).drop.2.calls
      = [⟨.setgroups 100, none⟩,
        ⟨.setresgid 100 100 100, some .invalidArgument⟩] := by decide

end Credentials

end ScreenUnlock
