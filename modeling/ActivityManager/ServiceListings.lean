import ActivityManager.ServiceInvariants

/-!
# The services that applications list

An application lists a service when it is started or first bound, and takes it
off again when it is stopped or unbound.  A start adds the service without a
look at the list, and a bind looks at the flags of the service instead: where
neither goes wrong, and no service is deleted that is listed, the lists hold
the services that are engaged, once each.
-/

namespace ActivityManager

open ServiceRecord (KeepsKey)

/-! ## What the operations do to a list -/

namespace ServiceRecord

/-- The list of the application is exact for the service. -/
structure Listing
    (service : ServiceRecord)
    (record : AppRecord) : Prop where
  distinct : record.mExistService.Nodup
  listed :
    service.mToken ∈ record.mExistService ↔ service.isEngaged = true

/-- An effect leaves it exact, and the other services where they are. -/
structure Relisting
    (service : ServiceRecord)
    (record : AppRecord)
    (effect : ServiceEffect) : Prop where
  mToken : effect.service.mToken = service.mToken
  listing :
    ∃ new,
      effect.app = some new ∧
        effect.service.Listing new ∧
        ∀ other,
          other ≠ service.mToken →
          (other ∈ new.mExistService ↔ other ∈ record.mExistService)

/-- A service comes to a list without it. -/
theorem Listing.add
    {service changed : ServiceRecord}
    {record : AppRecord}
    (listing : service.Listing record)
    (notEngaged : service.isEngaged = false)
    (sameToken : changed.mToken = service.mToken)
    (isEngaged : changed.isEngaged = true) :
    changed.Listing (record.addService service.mToken) ∧
      ∀ other,
        other ≠ service.mToken →
        (other ∈ (record.addService service.mToken).mExistService ↔
          other ∈ record.mExistService) := by
  have notListed : service.mToken ∉ record.mExistService := by
    rw [listing.listed, notEngaged]
    exact Bool.false_ne_true
  refine ⟨⟨?_, ?_⟩, ?_⟩
  · exact
      listing.distinct.append (List.nodup_singleton _)
        (List.disjoint_singleton.mpr notListed)
  · rw [sameToken, isEngaged]
    exact iff_of_true (List.mem_append_right _ (by simp)) rfl
  · intro other notThis
    rw [AppRecord.addService, List.mem_append, List.mem_singleton,
      or_iff_left notThis]

/-- A service is taken from a list. -/
theorem Listing.remove
    {service changed : ServiceRecord}
    {record : AppRecord}
    (listing : service.Listing record)
    (sameToken : changed.mToken = service.mToken)
    (notEngaged : changed.isEngaged = false) :
    changed.Listing (record.deleteService service.mToken) ∧
      ∀ other,
        other ≠ service.mToken →
        (other ∈ (record.deleteService service.mToken).mExistService ↔
          other ∈ record.mExistService) := by
  have left :
      ∀ other,
        other ∈ (record.deleteService service.mToken).mExistService ↔
          other ≠ service.mToken ∧ other ∈ record.mExistService :=
    fun _ => mem_swapRemove_iff listing.distinct
  refine ⟨⟨swapRemove_nodup listing.distinct _, ?_⟩, ?_⟩
  · rw [sameToken, left, notEngaged]
    exact iff_of_false (fun isLeft => isLeft.1 rfl) Bool.false_ne_true
  · intro other notThis
    rw [left, and_iff_right notThis]

variable {service : ServiceRecord} {record : AppRecord}

/-- A start lists the service, which must not be listed. -/
theorem start_relisting
    (intent : Intent)
    (listing : service.Listing record)
    (notEngaged : service.isEngaged = false) :
    service.Relisting record (service.start intent (some record)) :=
  ⟨rfl, _, rfl, listing.add notEngaged rfl rfl⟩

theorem stop_relisting (listing : service.Listing record) :
    service.Relisting record (service.stop (some record)) :=
  ⟨rfl, _, rfl, listing.remove rfl rfl⟩

/-- A bind lists the service if no flag is set. -/
theorem bind_relisting
    (conn : Nat)
    (intent : Intent)
    (listing : service.Listing record)
    (agrees : service.isEngaged = service.isAlive) :
    service.Relisting record (service.bind conn intent (some record)) := by
  refine ⟨rfl, ?_⟩
  unfold bind isAlive at *
  dsimp only
  by_cases isUnknown : service.mStartFlag = .unknow
  · rw [decide_eq_false (not_not_intro isUnknown)] at agrees
    rw [if_pos isUnknown]
    exact ⟨_, rfl, listing.add agrees rfl rfl⟩
  · rw [decide_eq_true isUnknown] at agrees
    rw [if_neg isUnknown]
    refine ⟨_, rfl, ⟨listing.distinct, ?_⟩, fun _ _ => Iff.rfl⟩
    rw [listing.listed, agrees]

/-- The last unbind takes a service from the list that was not started. -/
theorem unbind_relisting
    (conn : Nat)
    (listing : service.Listing record) :
    service.Relisting record (service.unbind conn (some record)) := by
  unfold unbind
  split
  · refine ⟨rfl, ?_⟩
    dsimp only
    generalize
      { service.mStartFlag with
        binded :=
          !(swapRemove (· == conn) service.mConnectRecord).isEmpty } =
        mStartFlag
    by_cases isUnknown : mStartFlag = .unknow
    · rw [if_pos isUnknown]
      refine ⟨_, rfl, listing.remove rfl ?_⟩
      rw [decide_eq_false (not_not_intro isUnknown), Bool.and_false]
    · rw [if_neg isUnknown]
      refine ⟨_, rfl, ⟨listing.distinct, ?_⟩, fun _ _ => Iff.rfl⟩
      rw [listing.listed, decide_eq_true isUnknown, Bool.and_true]
  · exact ⟨rfl, _, rfl, listing, fun _ _ => Iff.rfl⟩

end ServiceRecord

namespace ActivityManagerInner

/-! ## All lists -/

/-- The lists of the applications hold the services engaged in them. -/
structure ServicesListed (inner : ActivityManagerInner) : Prop where
  distinct :
    ∀ app record,
      inner.manager.apps app = some record →
      record.mExistService.Nodup
  listed :
    ∀ app record,
      inner.manager.apps app = some record →
      ∀ token,
        token ∈ record.mExistService ↔
          ∃ service ∈ inner.mServices,
            service.mToken = token ∧
              service.mApp = app ∧ service.isEngaged = true

variable {inner next : ActivityManagerInner} {service : ServiceRecord}

namespace ServicesListed

theorem start
    (lines : List LmkRow)
    (arena : Int)
    (now : Nat) :
    ServicesListed (start lines arena now) where
  distinct _ _ isRecord := absurd isRecord nofun
  listed _ _ isRecord := absurd isRecord nofun

/-- For each service of the list, the list of its application is exact. -/
theorem listing
    {record : AppRecord}
    (before : ServicesListed inner)
    (tokens : (inner.mServices.map ServiceRecord.mToken).Nodup)
    (isListed : service ∈ inner.mServices)
    (isRecord : inner.manager.apps service.mApp = some record) :
    service.Listing record where
  distinct := before.distinct _ record isRecord
  listed := by
    rw [before.listed _ record isRecord]
    constructor
    · rintro ⟨other, otherListed, sameToken, _, isEngaged⟩
      rw [← eq_of_mToken_eq tokens otherListed isListed sameToken]
      exact isEngaged
    · exact fun isEngaged => ⟨service, isListed, rfl, rfl, isEngaged⟩

/-- Nothing happens to the services and to what applications list. -/
theorem kept
    {related : AppRecord → AppRecord → Prop}
    (before : ServicesListed inner)
    (sameLists :
      ∀ old new,
        related old new →
        new.mExistService = old.mExistService)
    (apps : AppsKept related inner.manager.apps next.manager.apps)
    (sameServices : next.mServices = inner.mServices) :
    ServicesListed next where
  distinct app new isNew := by
    obtain ⟨old, isOld, isRelated⟩ := apps.exists_before isNew
    rw [sameLists old new isRelated]
    exact before.distinct app old isOld
  listed app new isNew := by
    obtain ⟨old, isOld, isRelated⟩ := apps.exists_before isNew
    rw [sameLists old new isRelated, sameServices]
    exact before.listed app old isOld

/-- Neither the applications nor the services change. -/
theorem of_eq
    (before : ServicesListed inner)
    (sameApps : next.manager.apps = inner.manager.apps)
    (sameServices : next.mServices = inner.mServices) :
    ServicesListed next := by
  have apps : AppsKept SameApp inner.manager.apps next.manager.apps := by
    rw [sameApps]
    exact .refl SameApp.refl _
  exact before.kept (fun _ _ same => same.mExistService) apps sameServices

theorem quiet
    {parts : TaskStackManager.Parts}
    (before : ServicesListed inner)
    (areRoutine : parts.AreRoutine)
    (quiet : Quiet parts inner next) :
    ServicesListed next :=
  before.kept (fun _ _ same => same.mExistService)
    (quiet.sameApps areRoutine).apps quiet.mServices

/-- Services are given what does not matter to the lists. -/
theorem setRecords
    {change : ServiceRecord → ServiceRecord}
    (before : ServicesListed inner)
    (same :
      ∀ service ∈ inner.mServices,
        (change service).key = service.key ∧
          (change service).isEngaged = service.isEngaged) :
    ServicesListed
      { inner with mServices := inner.mServices.map change } where
  distinct := before.distinct
  listed app record isRecord token := by
    rw [before.listed app record isRecord]
    constructor
    · rintro ⟨service, isListed, isToken, isHosted, isEngaged⟩
      obtain ⟨sameKey, sameState⟩ := same service isListed
      refine ⟨change service, List.mem_map_of_mem isListed, ?_, ?_, ?_⟩
      · exact (congrArg Prod.fst sameKey).trans isToken
      · exact (congrArg (·.2.2) sameKey).trans isHosted
      · exact sameState.trans isEngaged
    · rintro ⟨_, isListed, isToken, isHosted, isEngaged⟩
      obtain ⟨service, wasListed, rfl⟩ := List.mem_map.mp isListed
      obtain ⟨sameKey, sameState⟩ := same service wasListed
      refine ⟨service, wasListed, ?_, ?_, ?_⟩
      · exact (congrArg Prod.fst sameKey).symm.trans isToken
      · exact (congrArg (·.2.2) sameKey).symm.trans isHosted
      · exact sameState.symm.trans isEngaged

/-- Which services are engaged once one of them changes. -/
theorem engaged_setService
    {changed : ServiceRecord}
    (isListed : service ∈ inner.mServices)
    (sameKey : changed.key = service.key)
    (token app : Nat) :
    (∃ other ∈ setService inner.mServices changed,
      other.mToken = token ∧
        other.mApp = app ∧ other.isEngaged = true) ↔
      if token = service.mToken then
        service.mApp = app ∧ changed.isEngaged = true
      else
        ∃ other ∈ inner.mServices,
          other.mToken = token ∧
            other.mApp = app ∧ other.isEngaged = true := by
  have sameToken : changed.mToken = service.mToken :=
    congrArg Prod.fst sameKey
  have sameApp : changed.mApp = service.mApp :=
    congrArg (·.2.2) sameKey
  constructor
  · rintro ⟨_, isMember, isToken, isHosted, isEngaged⟩
    obtain ⟨other, wasListed, rfl⟩ := List.mem_map.mp isMember
    by_cases isChanged : other.mToken = changed.mToken
    · rw [if_pos isChanged] at isToken isHosted isEngaged
      rw [if_pos (isToken.symm.trans sameToken)]
      exact ⟨sameApp.symm.trans isHosted, isEngaged⟩
    · rw [if_neg isChanged] at isToken isHosted isEngaged
      rw [isToken, sameToken] at isChanged
      rw [if_neg isChanged]
      exact ⟨other, wasListed, isToken, isHosted, isEngaged⟩
  · split
    · rename_i isThis
      rintro ⟨isHosted, isEngaged⟩
      refine ⟨changed, ?_, ?_, sameApp.trans isHosted, isEngaged⟩
      · refine List.mem_map.mpr ⟨service, isListed, ?_⟩
        rw [if_pos sameToken.symm]
      · exact sameToken.trans isThis.symm
    · rename_i notThis
      rintro ⟨other, otherListed, isToken, isState⟩
      refine ⟨other, ?_, isToken, isState⟩
      refine List.mem_map.mpr ⟨other, otherListed, ?_⟩
      rw [isToken, sameToken, if_neg notThis]

/-- An operation on a service that keeps its list exact. -/
theorem onService
    {operate : ServiceRecord → Option AppRecord → ServiceEffect}
    (before : ServicesListed inner)
    (tokens : (inner.mServices.map ServiceRecord.mToken).Nodup)
    (keepsKey : KeepsKey operate)
    (isListed : service ∈ inner.mServices)
    (relists :
      ∀ record,
        inner.manager.apps service.mApp = some record →
        service.Relisting record (operate service (some record))) :
    ServicesListed (inner.onService operate service) := by
  obtain ⟨sameKey, sameApp⟩ :=
    keepsKey service (inner.manager.apps service.mApp)
  have engaged := engaged_setService isListed sameKey
  -- the lists of the other applications do not notice it
  have others :
      ∀ app record,
        inner.manager.apps app = some record →
        app ≠ service.mApp →
        ∀ token,
          token ∈ record.mExistService ↔
            ∃ other ∈
              setService inner.mServices
                (operate service (inner.manager.apps service.mApp)).service,
              other.mToken = token ∧
                other.mApp = app ∧ other.isEngaged = true := by
    intro app record isRecord isOther token
    rw [engaged, before.listed app record isRecord]
    split
    · rename_i isThis
      refine iff_of_false ?_ fun ends => isOther ends.1.symm
      rintro ⟨other, otherListed, isToken, isHosted, _⟩
      have same :=
        eq_of_mToken_eq tokens otherListed isListed (isToken.trans isThis)
      exact isOther (same ▸ isHosted).symm
    · exact Iff.rfl
  cases isEffect :
      (operate service (inner.manager.apps service.mApp)).app with
  | none =>
      have sameApps :
          (inner.onService operate service).manager.apps =
            inner.manager.apps := by
        simp only [ActivityManagerInner.onService, isEffect]
      have noRecord : inner.manager.apps service.mApp = none := by
        cases isRecord : inner.manager.apps service.mApp with
        | none =>
            rfl
        | some record =>
            obtain ⟨_, _, isNew, _⟩ := relists record isRecord
            rw [isRecord, isNew] at isEffect
            cases isEffect
      constructor
      · rw [sameApps]
        exact before.distinct
      · intro app record isRecord
        rw [sameApps] at isRecord
        refine others app record isRecord ?_
        rintro rfl
        cases noRecord.symm.trans isRecord
  | some new =>
      obtain ⟨old, isOld, _⟩ := sameApp new isEffect
      obtain ⟨sameToken, _, isNew, listing, elsewhere⟩ := relists old isOld
      rw [← isOld, isEffect, Option.some.injEq] at isNew
      rw [← isOld] at sameToken listing
      subst isNew
      have setApps :
          (inner.onService operate service).manager.apps =
            Function.update inner.manager.apps service.mApp (some new) := by
        simp only [ActivityManagerInner.onService, isEffect]
        rfl
      constructor
      · intro app record isRecord
        rw [setApps] at isRecord
        rcases update_some_cases isRecord with
          ⟨_, isNew⟩ | ⟨_, wasRecord⟩
        · rw [isNew]
          exact listing.distinct
        · exact before.distinct app record wasRecord
      · intro app record isRecord token
        rw [setApps] at isRecord
        rcases update_some_cases isRecord with
          ⟨isApp, isNew⟩ | ⟨isOther, wasRecord⟩
        · rw [isNew, isApp]
          refine Iff.trans ?_ (engaged token service.mApp).symm
          split
          · rename_i isThis
            rw [isThis, ← sameToken, listing.listed]
            exact (and_iff_right rfl).symm
          · rename_i notThis
            rw [elsewhere token notThis]
            exact before.listed _ old isOld token
        · exact others app record wasRecord isOther token

/-! ## The requests -/

/-- A request for a service that is listed in its application, or is not. -/
theorem requestService
    (before : ServicesListed inner)
    (tokens : (inner.mServices.map ServiceRecord.mToken).Nodup)
    (isListed : service ∈ inner.mServices)
    (intent : Intent)
    (request : ServiceRequest)
    (agrees :
      ∀ record,
        inner.manager.apps service.mApp = some record →
        service.isEngaged =
          match request with
          | .start => false
          | .bind _ => service.isAlive) :
    ServicesListed (inner.requestService service intent request) := by
  cases request with
  | start =>
      refine
        before.onService tokens (ServiceRecord.keepsKey_start intent)
          isListed ?_
      intro record isRecord
      exact
        ServiceRecord.start_relisting intent
          (before.listing tokens isListed isRecord)
          (agrees record isRecord)
  | bind conn =>
      refine
        before.onService tokens (ServiceRecord.keepsKey_bind conn intent)
          isListed ?_
      intro record isRecord
      exact
        ServiceRecord.bind_relisting conn intent
          (before.listing tokens isListed isRecord)
          (agrees record isRecord)

/-- A new service is not listed before its first request. -/
theorem createService
    {app : Nat}
    (before : ServicesListed inner)
    (numbered : ServicesNumbered inner)
    (policy : ProcessPriorityPolicy)
    (serviceName : String)
    (priority : ProcessPriority)
    (intent : Intent)
    (request : ServiceRequest) :
    ServicesListed
      (inner.createService policy
        (.fresh serviceName inner.nextToken priority app) intent
        request) := by
  generalize isFresh :
    ServiceRecord.fresh serviceName inner.nextToken priority app = fresh
  have notEngaged : fresh.isEngaged = false := by
    rw [← isFresh]
    rfl
  have added :
      ServicesListed
        ({ inner with mPriorityPolicy := policy }.addService fresh) := by
    constructor
    · exact before.distinct
    · intro host record isRecord token
      refine (before.listed host record isRecord token).trans ?_
      constructor
      · rintro ⟨other, isListed, isState⟩
        exact ⟨other, List.mem_append_left _ isListed, isState⟩
      · rintro ⟨other, isListed, isToken, isHosted, isEngaged⟩
        rcases List.mem_append.mp isListed with isOld | isNew
        · exact ⟨other, isOld, isToken, isHosted, isEngaged⟩
        · rw [List.mem_singleton.mp isNew, notEngaged] at isEngaged
          cases isEngaged
  refine requestService added ?_ ?_ intent request ?_
  · change ((inner.mServices ++ [fresh]).map ServiceRecord.mToken).Nodup
    rw [List.map_append, List.nodup_append]
    refine ⟨numbered.distinct, List.nodup_singleton _, ?_⟩
    intro token member other isNew
    obtain ⟨old, isListed, rfl⟩ := List.mem_map.mp member
    rw [List.mem_singleton.mp isNew, ← isFresh]
    exact Nat.ne_of_lt (numbered.used old isListed)
  · exact List.mem_append_right _ (List.mem_singleton_self fresh)
  · intro _ _
    rw [notEngaged, ← isFresh]
    cases request <;> rfl

/-- A stop is always exact. -/
theorem stop
    (before : ServicesListed inner)
    (tokens : (inner.mServices.map ServiceRecord.mToken).Nodup)
    (isListed : service ∈ inner.mServices) :
    ServicesListed (inner.onService ServiceRecord.stop service) := by
  refine before.onService tokens ServiceRecord.keepsKey_stop isListed ?_
  intro record isRecord
  exact
    ServiceRecord.stop_relisting (before.listing tokens isListed isRecord)

theorem stopServiceReal
    (before : ServicesListed inner)
    (tokens : (inner.mServices.map ServiceRecord.mToken).Nodup)
    (isListed : service ∈ inner.mServices) :
    ServicesListed (inner.stopServiceReal service) := by
  unfold ActivityManagerInner.stopServiceReal
  split
  · exact before.stop tokens isListed
  · exact before

/-- So are the unbinds of a connection. -/
theorem unbindAll
    (before : ServicesListed inner)
    (tokens : (inner.mServices.map ServiceRecord.mToken).Nodup)
    (conn : Nat)
    (unbound : List Nat) :
    ServicesListed
      (ActivityManagerInner.unbindAll conn unbound inner) := by
  induction unbound generalizing inner with
  | nil =>
      exact before
  | cons token rest inductionHypothesis =>
      rw [ActivityManagerInner.unbindAll]
      split
      · rename_i found isFound
        have isListed := (mem_of_getService isFound).1
        have keepsKey := ServiceRecord.keepsKey_unbind conn
        refine inductionHypothesis ?_ ?_
        · refine before.onService tokens keepsKey isListed ?_
          intro record isRecord
          exact
            ServiceRecord.unbind_relisting conn
              (before.listing tokens isListed isRecord)
        · rw [(onService_serviced keepsKey isListed).tokens]
          exact tokens
      · exact inductionHypothesis before tokens

/-- A service is deleted that is not listed. -/
theorem deleteService
    (before : ServicesListed inner)
    (tokens : (inner.mServices.map ServiceRecord.mToken).Nodup)
    (isListed : service ∈ inner.mServices)
    (notListed :
      ∀ record,
        inner.manager.apps service.mApp = some record →
        service.mToken ∉ record.mExistService) :
    ServicesListed
      { inner with
        mServices :=
          ActivityManager.deleteService inner.mServices
            service.mToken } where
  distinct := before.distinct
  listed app record isRecord token := by
    have left :
        ∀ other,
          other ∈
              ActivityManager.deleteService inner.mServices
                service.mToken ↔
            other ∈ inner.mServices ∧ other.mToken ≠ service.mToken := by
      intro other
      rw [ActivityManager.deleteService,
        (swapRemove_key tokens service.mToken).mem_iff, List.mem_filter,
        bne_iff_ne]
    constructor
    · intro isThere
      obtain ⟨other, otherListed, isToken, isHosted, isEngaged⟩ :=
        (before.listed app record isRecord token).mp isThere
      refine
        ⟨other, (left other).mpr ⟨otherListed, ?_⟩, isToken, isHosted,
          isEngaged⟩
      intro isThis
      have same := eq_of_mToken_eq tokens otherListed isListed isThis
      subst same
      subst isHosted
      exact notListed record isRecord (isToken ▸ isThere)
    · rintro ⟨other, isLeft, isState⟩
      exact
        (before.listed app record isRecord token).mpr
          ⟨other, ((left other).mp isLeft).1, isState⟩

end ServicesListed

end ActivityManagerInner

end ActivityManager
