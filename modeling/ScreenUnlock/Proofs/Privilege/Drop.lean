/-
Giving up rights, call by call.

A call either fails, and then nothing changes but the record of calls, or
it has its effect (`Made`). `Switched` and `Dropped` list the ways in
which a plan can go, each with the calls that were made and the states
between them; nothing is missing (`dropped_of_drop`). What is said of
giving up rights goes through these lists and opens no definition.

# The saved ids

The check at the end looks only at the effective ids. The saved ones are
right nevertheless: they begin as the effective ones, and each call of the
plan sets all ids of a kind at once or none of them (`IdTriple.Plain`). So
when the effective id is the invoker's, all three are.

# The probe

That root is out of reach is concluded from one call that fails. A call
that is refused is proof of that. One that fails for another reason is
not: a process that keeps its capability when it changes its user is
still capable then.
-/
import ScreenUnlock.Privilege.Drop

namespace ScreenUnlock

namespace IdTriple

/-- The real id is this one, and going back to the saved id changes
nothing. -/
structure Plain (triple : IdTriple) (id : IdNumber) : Prop where
  real : triple.real = id
  saved : triple.saved = triple.effective

theorem Plain.eq_all {triple : IdTriple} {id : IdNumber}
    (h : triple.Plain id) (heffective : triple.effective = id) :
    triple = all id := by
  obtain ⟨real, effective, saved⟩ := triple
  obtain ⟨hreal, hsaved⟩ := h
  cases hreal
  cases hsaved
  cases heffective
  rfl

theorem plain_all (id : IdNumber) : (all id).Plain id := ⟨rfl, rfl⟩

end IdTriple

theorem Ids.isPrivileged_eq_false_iff (ids : Ids) :
    ids.isPrivileged = false ↔ ids.effectiveUser = ids.realUser
      ∧ ids.effectiveGroup = ids.realGroup := by
  rw [isPrivileged, Bool.or_eq_false_iff, decide_eq_false_iff_not,
    decide_eq_false_iff_not, ne_eq, ne_eq, Decidable.not_not,
    Decidable.not_not]

/-- The plan, case by case. -/
theorem DropPlan.ofIds_cases (ids : Ids) :
    (ids.realUser = rootId ∧ ofIds ids = .error .runningAsRoot)
      ∨ (ids.realUser ≠ rootId ∧ ids.isPrivileged = false
        ∧ ofIds ids = .ok .keep)
      ∨ (ids.realUser ≠ rootId ∧ ids.isPrivileged = true
        ∧ ofIds ids = .ok (.switchTo ids.realUser ids.realGroup
          (decide (ids.effectiveUser = rootId)))) := by
  unfold ofIds
  by_cases hroot : ids.realUser = rootId
  · exact .inl ⟨hroot, if_pos hroot⟩
  · rw [if_neg hroot]
    cases ids.isPrivileged with
    | false => exact .inr (.inl ⟨hroot, rfl, rfl⟩)
    | true => exact .inr (.inr ⟨hroot, rfl, rfl⟩)

namespace Credentials

-- ============================================================== one call

/-- The two ways in which a call can go. -/
inductive Made (creds : Credentials) (wanted : IdCall) :
    Option Errno → Credentials → Prop where
  | failed {cause : Errno} : creds.failure? wanted = some cause →
      Made creds wanted (some cause)
        { creds with calls := creds.calls ++ [⟨wanted, some cause⟩] }
  | done : creds.failure? wanted = none →
      Made creds wanted none
        { creds.effect wanted with calls := creds.calls ++ [⟨wanted, none⟩] }

section Made

variable {creds creds' : Credentials} {wanted : IdCall}
  {failure : Option Errno}

theorem made_of_call (h : creds.call wanted = (failure, creds')) :
    Made creds wanted failure creds' := by
  unfold call at h
  split at h
  case h_1 cause hcause =>
    cases h
    exact .failed hcause
  case h_2 hnone =>
    cases h
    exact .done hnone

/-- Every call is recorded, with its result. -/
theorem Made.calls (h : Made creds wanted failure creds') :
    creds'.calls = creds.calls ++ [⟨wanted, failure⟩] := by
  cases h <;> rfl

/-- No call changes what will go wrong. -/
theorem Made.faults (h : Made creds wanted failure creds') :
    creds'.faults = creds.faults := by
  cases h with
  | failed _ => rfl
  | done _ =>
      show (creds.effect wanted).faults = creds.faults
      cases wanted <;> simp only [effect, withUsers] <;> split <;> rfl

/-- A call that fails changes nothing else. -/
theorem Made.unchanged {cause : Errno}
    (h : Made creds wanted (some cause) creds') :
    creds'.users = creds.users ∧ creds'.groups = creds.groups
      ∧ creds'.capable = creds.capable := by
  cases h
  exact ⟨rfl, rfl, rfl⟩

/-- Giving up the further groups changes no id. -/
theorem Made.of_setgroups {group : IdNumber}
    (h : Made creds (.setgroups group) none creds') :
    creds'.users = creds.users ∧ creds'.groups = creds.groups
      ∧ creds'.capable = creds.capable := by
  cases h
  exact ⟨rfl, rfl, rfl⟩

/-- Changing the group sets all three groups or none, and nothing else. -/
theorem Made.of_setresgid {group : IdNumber}
    (h : Made creds (.setresgid group group group) none creds') :
    (creds'.groups = creds.groups ∨ creds'.groups = .all group)
      ∧ creds'.users = creds.users ∧ creds'.capable = creds.capable := by
  cases h
  simp only [effect]
  split
  · exact ⟨.inl rfl, rfl, rfl⟩
  · exact ⟨.inr rfl, rfl, rfl⟩

/-- Changing the user sets all three users or none, and the capability
with them unless it is kept. -/
theorem Made.of_setresuid {user : IdNumber}
    (h : Made creds (.setresuid user user user) none creds') :
    ((creds'.users = creds.users ∧ creds'.capable = creds.capable)
      ∨ (creds'.users = .all user ∧ creds'.capable
        = if creds.faults.keepsCapability then creds.capable
          else decide (user = rootId)))
      ∧ creds'.groups = creds.groups := by
  cases h
  simp only [effect]
  split
  · exact ⟨.inl ⟨rfl, rfl⟩, rfl⟩
  · exact ⟨.inr ⟨rfl, rfl⟩, rfl⟩

/-- A capable process is refused no change of its user; one that is not
may become root only if it is root already or was before. -/
theorem refusal?_setuid_eq_none_iff (hreal : creds.users.real ≠ rootId)
    (hsaved : creds.users.saved ≠ rootId) :
    creds.refusal? (.setuid rootId) = none ↔ creds.capable = true := by
  simp [refusal?, hreal.symm, hsaved.symm]

end Made

-- ========================================================== a whole plan

/-- How the change to a user and a group can go: what comes of it, and
what holds afterwards. -/
inductive Switched (creds : Credentials) (user group : IdNumber) :
    Except StartError Unit → Credentials → Prop where
  | noGroup {creds' : Credentials} {cause : Errno} :
      Made creds (.setresgid group group group) (some cause) creds' →
      Switched creds user group (.error (.dropFailed cause)) creds'
  | noUser {grouped creds' : Credentials} {cause : Errno} :
      Made creds (.setresgid group group group) none grouped →
      Made grouped (.setresuid user user user) (some cause) creds' →
      Switched creds user group (.error (.dropFailed cause)) creds'
  -- The process is not what it was told to become.
  | differs {grouped changed : Credentials} :
      Made creds (.setresgid group group group) none grouped →
      Made grouped (.setresuid user user user) none changed →
      changed.users.effective ≠ user ∨ changed.groups.effective ≠ group →
      Switched creds user group (.error .regainedPrivileges) changed
  -- It became root again.
  | regained {grouped changed creds' : Credentials} :
      Made creds (.setresgid group group group) none grouped →
      Made grouped (.setresuid user user user) none changed →
      changed.users.effective = user → changed.groups.effective = group →
      Made changed (.setuid rootId) none creds' →
      Switched creds user group (.error .regainedPrivileges) creds'
  | confirmed {grouped changed creds' : Credentials} {cause : Errno} :
      Made creds (.setresgid group group group) none grouped →
      Made grouped (.setresuid user user user) none changed →
      changed.users.effective = user → changed.groups.effective = group →
      Made changed (.setuid rootId) (some cause) creds' →
      Switched creds user group (.ok ()) creds'

/-- What becomes of the further groups before the change: they are given
up if root is the effective user, and stay otherwise. -/
inductive Cleared (creds : Credentials) : Credentials → Prop where
  | cleared {creds' : Credentials} : creds.users.effective = rootId →
      Made creds (.setgroups creds.groups.real) none creds' →
      Cleared creds creds'
  | kept : creds.users.effective ≠ rootId → Cleared creds creds

/-- How making a plan and carrying it out can go. -/
inductive Dropped (creds : Credentials) :
    Except StartError DropPlan → Credentials → Prop where
  | root : creds.users.real = rootId →
      Dropped creds (.error .runningAsRoot) creds
  -- There is nothing to give up.
  | keep : creds.users.real ≠ rootId → creds.ids.isPrivileged = false →
      Dropped creds (.ok .keep) creds
  | noGroups {creds' : Credentials} {cause : Errno} :
      creds.users.real ≠ rootId → creds.users.effective = rootId →
      Made creds (.setgroups creds.groups.real) (some cause) creds' →
      Dropped creds (.error (.dropFailed cause)) creds'
  | failed {cleared creds' : Credentials} {cause : StartError} :
      creds.users.real ≠ rootId → creds.ids.isPrivileged = true →
      Cleared creds cleared →
      Switched cleared creds.users.real creds.groups.real (.error cause)
        creds' →
      Dropped creds (.error cause) creds'
  | switched {cleared creds' : Credentials} :
      creds.users.real ≠ rootId → creds.ids.isPrivileged = true →
      Cleared creds cleared →
      Switched cleared creds.users.real creds.groups.real (.ok ()) creds' →
      Dropped creds (.ok (.switchTo creds.users.real creds.groups.real
        (decide (creds.users.effective = rootId)))) creds'

section Completeness

variable {creds creds' : Credentials} {user group : IdNumber}

/-- A call that must succeed fails the plan, or the rest of it follows. -/
theorem require_inv {wanted : IdCall} {result : Except StartError Unit}
    {next : Credentials → Except StartError Unit × Credentials}
    (h : creds.require wanted next = (result, creds')) :
    (∃ cause, Made creds wanted (some cause) creds'
        ∧ result = .error (.dropFailed cause))
      ∨ ∃ made, Made creds wanted none made ∧ next made = (result, creds') := by
  unfold require at h
  split at h
  case h_1 cause made hcall =>
    cases h
    exact .inl ⟨cause, made_of_call hcall, rfl⟩
  case h_2 made hcall => exact .inr ⟨made, made_of_call hcall, h⟩

/-- The check: the process is not what it was told to become, or it tries to
become root and either can or cannot. -/
theorem confirm_inv {result : Except StartError Unit}
    (h : creds.confirm user group = (result, creds')) :
    ((creds.users.effective ≠ user ∨ creds.groups.effective ≠ group)
        ∧ result = .error .regainedPrivileges ∧ creds' = creds)
      ∨ creds.users.effective = user ∧ creds.groups.effective = group
        ∧ ((Made creds (.setuid rootId) none creds'
            ∧ result = .error .regainedPrivileges)
          ∨ ∃ cause, Made creds (.setuid rootId) (some cause) creds'
            ∧ result = .ok ()) := by
  unfold confirm at h
  split at h
  case isTrue hdiffers =>
    cases h
    exact .inl ⟨hdiffers, rfl, rfl⟩
  case isFalse hsame =>
    obtain ⟨heffective, hgroups⟩ := not_or.mp hsame
    refine .inr ⟨Decidable.not_not.mp heffective,
      Decidable.not_not.mp hgroups, ?_⟩
    split at h
    case h_1 hprobe =>
      cases h
      exact .inl ⟨made_of_call hprobe, rfl⟩
    case h_2 cause _ hprobe =>
      cases h
      exact .inr ⟨cause, made_of_call hprobe, rfl⟩

theorem switched_of_switchTo {result : Except StartError Unit}
    (h : creds.switchTo user group = (result, creds')) :
    Switched creds user group result creds' := by
  unfold switchTo at h
  rcases require_inv h with ⟨cause, hgroup, rfl⟩ | ⟨grouped, hgroup, h⟩
  · exact .noGroup hgroup
  rcases require_inv h with ⟨cause, huser, rfl⟩ | ⟨changed, huser, h⟩
  · exact .noUser hgroup huser
  rcases confirm_inv h with ⟨hdiffers, rfl, rfl⟩
    | ⟨heffective, hgroups, ⟨hprobe, rfl⟩ | ⟨cause, hprobe, rfl⟩⟩
  · exact .differs hgroup huser hdiffers
  · exact .regained hgroup huser heffective hgroups hprobe
  · exact .confirmed hgroup huser heffective hgroups hprobe

/-- A plan begins with the further groups, if root is the effective
user. -/
theorem carryOut_inv {result : Except StartError Unit}
    (h : creds.carryOut (.switchTo user group
      (decide (creds.users.effective = rootId))) = (result, creds'))
    (hgroup : group = creds.groups.real) :
    (∃ cause, creds.users.effective = rootId
        ∧ Made creds (.setgroups creds.groups.real) (some cause) creds'
        ∧ result = .error (.dropFailed cause))
      ∨ ∃ cleared, Cleared creds cleared
        ∧ Switched cleared user group result creds' := by
  unfold carryOut at h
  simp only [decide_eq_true_eq] at h
  subst hgroup
  split at h
  case isTrue heffective =>
    rcases require_inv h with ⟨cause, hcall, rfl⟩ | ⟨cleared, hcall, h⟩
    · exact .inl ⟨cause, heffective, hcall, rfl⟩
    · exact .inr ⟨cleared, .cleared heffective hcall, switched_of_switchTo h⟩
  case isFalse heffective =>
    exact .inr ⟨creds, .kept heffective, switched_of_switchTo h⟩

/-- Every attempt to give up rights goes in one of the ways listed. -/
theorem dropped_of_drop {result : Except StartError DropPlan}
    (h : creds.drop = (result, creds')) : Dropped creds result creds' := by
  unfold drop at h
  rcases DropPlan.ofIds_cases creds.ids with ⟨hroot, hplan⟩
    | ⟨hroot, hprivileged, hplan⟩ | ⟨hroot, hprivileged, hplan⟩
  · rw [hplan] at h
    cases h
    exact .root hroot
  · rw [hplan] at h
    cases h
    exact .keep hroot hprivileged
  · rw [hplan] at h
    cases hcarry : creds.carryOut (.switchTo creds.ids.realUser
        creds.ids.realGroup (decide (creds.ids.effectiveUser = rootId))) with
    | mk outcome after =>
        simp only [hcarry] at h
        rcases carryOut_inv hcarry rfl with ⟨cause, heffective, hcall, rfl⟩
          | ⟨cleared, hcleared, hswitched⟩
        · cases h
          exact .noGroups hroot heffective hcall
        · cases outcome with
          | error cause =>
              cases h
              exact .failed hroot hprivileged hcleared hswitched
          | ok _ =>
              cases h
              exact .switched hroot hprivileged hcleared hswitched

end Completeness

-- ================================================= when all has gone well

section Success

variable {creds creds' : Credentials} {user group : IdNumber}

theorem Cleared.same (h : Cleared creds creds') :
    creds'.users = creds.users ∧ creds'.groups = creds.groups
      ∧ creds'.capable = creds.capable ∧ creds'.faults = creds.faults := by
  cases h with
  | cleared _ hcall =>
      obtain ⟨husers, hgroups, hcapable⟩ := hcall.of_setgroups
      exact ⟨husers, hgroups, hcapable, hcall.faults⟩
  | kept _ => exact ⟨rfl, rfl, rfl, rfl⟩

/-- Plain ids become those of the plan in all three places. -/
theorem Switched.eq_all (h : Switched creds user group (.ok ()) creds')
    (husers : creds.users.Plain user) (hgroups : creds.groups.Plain group) :
    creds'.users = .all user ∧ creds'.groups = .all group := by
  cases h with
  | @confirmed grouped changed _ _ hgroup huser heffective hgrouped hprobe =>
      obtain ⟨hgroupCases, husersKept, -⟩ := hgroup.of_setresgid
      obtain ⟨huserCases, hgroupsKept⟩ := huser.of_setresuid
      obtain ⟨husersLast, hgroupsLast, -⟩ := hprobe.unchanged
      have hplainGroups : changed.groups.Plain group := by
        rw [hgroupsKept]
        rcases hgroupCases with hsame | hall
        · exact hsame ▸ hgroups
        · exact hall ▸ IdTriple.plain_all group
      have hplainUsers : changed.users.Plain user := by
        rcases huserCases with ⟨hsame, -⟩ | ⟨hall, -⟩
        · rw [hsame, husersKept]
          exact husers
        · exact hall ▸ IdTriple.plain_all user
      rw [husersLast, hgroupsLast]
      exact ⟨hplainUsers.eq_all heffective, hplainGroups.eq_all hgrouped⟩

/-- The calls of a change that was confirmed. -/
theorem Switched.calls_of_ok (h : Switched creds user group (.ok ()) creds') :
    ∃ cause, creds'.calls = creds.calls
      ++ [⟨.setresgid group group group, none⟩,
        ⟨.setresuid user user user, none⟩, ⟨.setuid rootId, some cause⟩] := by
  cases h with
  | @confirmed _ _ _ cause hgroup huser _ _ hprobe =>
      refine ⟨cause, ?_⟩
      rw [hprobe.calls, huser.calls, hgroup.calls]
      simp

/-- A process is capable after the change exactly if it was before and
keeps its capability. -/
theorem Switched.capable_of_ok
    (h : Switched creds user group (.ok ()) creds') (huser : user ≠ rootId)
    (hcapable : creds.capable = decide (creds.users.effective = rootId)) :
    creds'.capable = true ↔ creds.users.effective = rootId
      ∧ creds.faults.keepsCapability = true := by
  cases h with
  | @confirmed grouped changed _ _ hgroup hcall heffective _ hprobe =>
      obtain ⟨-, husersKept, hcapableKept⟩ := hgroup.of_setresgid
      rw [hprobe.unchanged.2.2]
      rcases hcall.of_setresuid.1 with ⟨hsame, hcapableSame⟩
        | ⟨-, hcapableSet⟩
      · -- the user was the invoker already, so nothing was kept
        rw [hsame, husersKept] at heffective
        rw [hcapableSame, hcapableKept, hcapable, heffective]
        simp [huser]
      · rw [hcapableSet, hgroup.faults, hcapableKept, hcapable]
        cases creds.faults.keepsCapability <;> simp [huser]

/-- Where the process is still capable, the probe failed because it was
told to. -/
theorem Switched.failing_of_capable
    (h : Switched creds user group (.ok ()) creds')
    (hcapable : creds'.capable = true) :
    ∃ cause, creds.faults.failing.lookup .setuid = some cause := by
  cases h with
  | @confirmed grouped changed _ _ hgroup huser _ _ hprobe =>
      rw [hprobe.unchanged.2.2] at hcapable
      have hfaults := huser.faults.trans hgroup.faults
      cases hprobe with
      | failed hfailure =>
          unfold failure? at hfailure
          rw [hfaults] at hfailure
          split at hfailure
          case h_1 cause hlookup => exact ⟨cause, hlookup⟩
          case h_2 _ => simp [refusal?, hcapable] at hfailure

end Success

-- ===================================================== the invoker's ids

section Drop

variable {ids : Ids} {faults : IdFaults} {plan : DropPlan}
  {creds' : Credentials}

/-- When all has gone well the ids are the invoker's, who is not root. -/
theorem ids_of_drop (h : (start ids faults).drop = (.ok plan, creds')) :
    ids.realUser ≠ rootId ∧ creds'.users = .all ids.realUser
      ∧ creds'.groups = .all ids.realGroup := by
  have husers : (start ids faults).users.Plain ids.realUser := ⟨rfl, rfl⟩
  have hgroups : (start ids faults).groups.Plain ids.realGroup := ⟨rfl, rfl⟩
  cases dropped_of_drop h with
  | keep hroot hsame =>
      obtain ⟨huser, hgroup⟩ := (Ids.isPrivileged_eq_false_iff _).mp hsame
      exact ⟨hroot, husers.eq_all huser, hgroups.eq_all hgroup⟩
  | switched hroot _ hcleared hswitched =>
      obtain ⟨husersKept, hgroupsKept, -⟩ := hcleared.same
      exact ⟨hroot, hswitched.eq_all (by rw [husersKept]; exact husers)
        (by rw [hgroupsKept]; exact hgroups)⟩

/-- A process that has given up its rights is its invoker in every
respect, whatever calls fail or do nothing on the way: all its users are
the real one it began with, all its groups the real group, and the real
user is not root. If root was its effective user, it was put into the real
group and no further one, and that call did not fail. -/
theorem drop_leaves_invoker
    (h : (start ids faults).drop = (.ok plan, creds')) :
    ids.realUser ≠ rootId
      ∧ creds'.users = .all ids.realUser
      ∧ creds'.groups = .all ids.realGroup
      ∧ creds'.ids.isPrivileged = false
      ∧ (ids.effectiveUser = rootId →
        creds'.calls.filter (fun record => record.call.name = .setgroups)
          = [⟨.setgroups ids.realGroup, none⟩]) := by
  obtain ⟨hroot, husers, hgroups⟩ := ids_of_drop h
  refine ⟨hroot, husers, hgroups, ?_, fun heffective => ?_⟩
  · rw [Ids.isPrivileged_eq_false_iff, Credentials.ids, husers, hgroups]
    exact ⟨rfl, rfl⟩
  cases dropped_of_drop h with
  | keep _ hsame =>
      have huser := ((Ids.isPrivileged_eq_false_iff _).mp hsame).1
      exact absurd (huser.symm.trans heffective) hroot
  | switched _ _ hcleared hswitched =>
      obtain ⟨cause, hcalls⟩ := hswitched.calls_of_ok
      cases hcleared with
      | cleared _ hcall =>
          rw [hcalls, hcall.calls]
          rfl
      | kept hne => exact absurd heffective hne

/-- A setuid program whose capability survives the change, whose group is
not changed and whose probe fails by accident: it is the invoker. -/
theorem drop_leaves_invoker_setuid :
    ∃ creds', (start ⟨1000, 0, 100, 100⟩
        { keepsCapability := true, failing := [(.setuid, .tryAgain)],
          ignored := [.setresgid] }).drop
        = (.ok (.switchTo 1000 100 true), creds')
      ∧ creds'.users = ⟨1000, 1000, 1000⟩
      ∧ creds'.groups = ⟨100, 100, 100⟩
      ∧ creds'.calls.filter (fun record => record.call.name = .setgroups)
        = [⟨.setgroups 100, none⟩] := by
  obtain ⟨creds', h⟩ : ∃ creds', (start ⟨1000, 0, 100, 100⟩
      { keepsCapability := true, failing := [(.setuid, .tryAgain)],
        ignored := [.setresgid] }).drop
      = (.ok (.switchTo 1000 100 true), creds') := ⟨_, rfl⟩
  obtain ⟨-, husers, hgroups, -, hcalls⟩ := drop_leaves_invoker h
  exact ⟨creds', h, husers, hgroups, hcalls rfl⟩

-- ============================================================= the probe

/-- How far the probe can be trusted. A process that has given up its
rights would be allowed to become root exactly if it is capable, and it is
capable in one case only: root was its effective user and it keeps its
capability when the user changes. Then the probe has failed for a reason
that has nothing to do with its rights; so a process whose probe was not
made to fail cannot become root. -/
theorem regainable_iff
    (h : (start ids faults).drop = (.ok plan, creds')) :
    (creds'.refusal? (.setuid rootId) = none ↔ creds'.capable = true)
      ∧ (creds'.capable = true ↔ ids.effectiveUser = rootId
        ∧ faults.keepsCapability = true)
      ∧ (faults.failing.lookup .setuid = none → creds'.capable = false) := by
  obtain ⟨hroot, husers, -⟩ := ids_of_drop h
  have hcapable : (start ids faults).capable
      = decide (ids.effectiveUser = rootId) := by
    simp [start, hroot]
  refine ⟨refusal?_setuid_eq_none_iff (by rw [husers]; exact hroot)
    (by rw [husers]; exact hroot), ?_⟩
  cases dropped_of_drop h with
  | keep _ hsame =>
      -- the effective user is the invoker, not root
      have huser := ((Ids.isPrivileged_eq_false_iff _).mp hsame).1
      have hne : ids.effectiveUser ≠ rootId := huser.symm ▸ hroot
      rw [hcapable]
      simp [hne]
  | switched _ _ hcleared hswitched =>
      obtain ⟨husersKept, -, hcapableKept, hfaults⟩ := hcleared.same
      have hiff := hswitched.capable_of_ok hroot
        (by rw [hcapableKept, husersKept]; exact hcapable)
      rw [husersKept, hfaults] at hiff
      refine ⟨hiff, fun hnone => ?_⟩
      rw [← Bool.not_eq_true]
      intro hcapable'
      obtain ⟨cause, hcause⟩ := hswitched.failing_of_capable hcapable'
      rw [hfaults] at hcause
      cases hnone.symm.trans hcause

/-- A setuid program without the right to keep its capability. The probe
fails by accident, and would have been refused anyway. -/
theorem regainable_iff_setuid :
    ∃ creds', (start ⟨1000, 0, 1000, 1000⟩
        { failing := [(.setuid, .tryAgain)] }).drop
        = (.ok (.switchTo 1000 1000 true), creds')
      ∧ creds'.capable = false
      ∧ creds'.refusal? (.setuid rootId) ≠ none := by
  obtain ⟨creds', h⟩ : ∃ creds', (start ⟨1000, 0, 1000, 1000⟩
      { failing := [(.setuid, .tryAgain)] }).drop
      = (.ok (.switchTo 1000 1000 true), creds') := ⟨_, rfl⟩
  obtain ⟨hrefusal, hcapable, -⟩ := regainable_iff h
  have hfalse : creds'.capable = false := by
    rw [← Bool.not_eq_true, hcapable]
    simp
  exact ⟨creds', h, hfalse, by rw [ne_eq, hrefusal, hfalse]; simp⟩

/-- A setuid program that keeps its capability and whose probe fails
because the system is short of something. All has gone well, it seems,
and yet it may become root. -/
theorem regainable_after_failed_probe :
    ∃ creds', (start ⟨1000, 0, 1000, 1000⟩
        { keepsCapability := true, failing := [(.setuid, .tryAgain)] }).drop
        = (.ok (.switchTo 1000 1000 true), creds')
      ∧ creds'.capable = true
      ∧ creds'.refusal? (.setuid rootId) = none :=
  ⟨_, rfl, rfl, rfl⟩

end Drop

end Credentials

end ScreenUnlock
