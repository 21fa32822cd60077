import ActivityManager.AwaitedActivities
import ActivityManager.IntentResolution

/-!
# Posting intents

`postIntent` looks for the component that a target names in the lists of its
application, and hands the intent to the application's thread.  The lists have
weak references only: an entry whose record nobody else keeps has expired, and
the lookups would go through a null pointer there.
-/

namespace ActivityManager

/-- The token that an intent is posted to. -/
inductive PostToken where
  | activity (activity : Nat)
  | service (token : Nat)
  /-- The binder of `mAppThread`. -/
  | application (app : Nat)
  deriving Repr, DecidableEq

/-- A call of `scheduleReceiveIntent` that an application receives. -/
structure PostedIntent where
  app : Nat
  token : PostToken
  intent : Intent
  deriving Repr, DecidableEq

namespace Intent

/-- `Intent::TARGET_PREFLEX`. -/
def targetPreflex : String := "@target."

/-- `Intent::TARGET_ACTIVITY_TOPRESUME`. -/
def targetActivityTopresume : String :=
  targetPreflex ++ "activity.TOP_RESUME"

/-- `Intent::TARGET_APPLICATION_FOREGROUND`. -/
def targetApplicationForeground : String :=
  targetPreflex ++ "application.FOREGROUND"

/-- `Intent::TARGET_APPLICATION_HOME`. -/
def targetApplicationHome : String :=
  targetPreflex ++ "application.HOME"

/-- `mTarget.compare(0, TARGET_PREFLEX.size(), TARGET_PREFLEX) == 0`. -/
def isSystemTarget (mTarget : String) : Bool :=
  mTarget.toList.take targetPreflex.length = targetPreflex.toList

end Intent

/-! ## Weak references -/

/--
The loop of `checkActivity` and of `checkService`.  `lock` gives the name of
the record that an entry leads to; there is no result at an expired entry.
-/
def findExisting
    (lock : Nat → Option String)
    (name : String) : List Nat → Option (Option Nat)
  | [] =>
      some none
  | entry :: rest => do
      let existing ← lock entry
      if existing = name then
        some (some entry)
      else
        findExisting lock name rest

section FindExisting

variable
  {lock : Nat → Option String}
  {name : String}
  {entries : List Nat}

/-- Where no entry has expired, the loop finds the first of the name. -/
theorem findExisting_eq
    (locks : ∀ entry ∈ entries, (lock entry).isSome = true) :
    findExisting lock name entries =
      some (entries.find? fun entry => lock entry = some name) := by
  induction entries with
  | nil =>
      rfl
  | cons entry rest inductionHypothesis =>
      obtain ⟨existing, isExisting⟩ :=
        Option.isSome_iff_exists.mp (locks entry List.mem_cons_self)
      have others :=
        inductionHypothesis fun other member =>
          locks other (List.mem_cons_of_mem _ member)
      rw [findExisting, isExisting, Option.bind_eq_bind, Option.bind_some]
      by_cases isName : existing = name
      · rw [if_pos isName, List.find?_cons_of_pos]
        rw [isExisting, isName, decide_eq_true_iff]
      · rw [if_neg isName, others, List.find?_cons_of_neg]
        rw [isExisting, decide_eq_true_iff]
        exact fun isSame => isName (Option.some_inj.mp isSame)

end FindExisting

namespace ActivityManagerInner

/--
Someone keeps the activity: `mActivityMap`, a task, or something that waits on
the board.
-/
def isKept
    (inner : ActivityManagerInner)
    (activity : Nat) : Bool :=
  let manager := inner.manager
  let tasks :=
    manager.lists.mAllTasks ++ manager.lists.mHomeTask.toList ++
      manager.heldTasks
  activity ∈ manager.mActivityMap ||
    tasks.any (fun task => activity ∈ manager.lists.stackOf task) ||
    inner.systemUI.mSystemUITasks.any
      (fun task => activity ∈ inner.systemUI.mStack task) ||
    manager.mPendTask.mTasklist.any
      (fun handler =>
        !handler.mIsDone && activity ∈ handler.mTask.activities) ||
    inner.mPendTask.mTasklist.any
      (fun handler =>
        !handler.mIsDone && awaitedActivity? handler = some activity)

/-- `mExistActivity[i].lock()->getName()`. -/
def lockActivity
    (inner : ActivityManagerInner)
    (activity : Nat) : Option String :=
  if inner.isKept activity then inner.activityName activity else none

/-- `mExistService[i].lock()->mServiceName`; only `mServices` keeps them. -/
def lockService
    (inner : ActivityManagerInner)
    (token : Nat) : Option String :=
  (getService inner.mServices token).map ServiceRecord.mServiceName

/-- `AppRecord::checkActivity`. -/
def checkActivity
    (inner : ActivityManagerInner)
    (record : AppRecord)
    (activityName : String) : Option (Option Nat) :=
  findExisting inner.lockActivity activityName record.mExistActivity

/-- `AppRecord::checkService`. -/
def checkService
    (inner : ActivityManagerInner)
    (record : AppRecord)
    (serviceName : String) : Option (Option Nat) :=
  findExisting inner.lockService serviceName record.mExistService

/-! ## Targets -/

/-- `ActivityManagerInner::getTopActivity`. -/
def getTopActivity (inner : ActivityManagerInner) : Option Nat :=
  match inner.getActiveTask true with
  | some task =>
      (inner.activityArray true task).getLast?
  | none =>
      (inner.getActiveTask false).bind fun task =>
        (inner.activityArray false task).getLast?

/-- The application of the root of a task, if there is such a task. -/
def findRootApplication
    (inner : ActivityManagerInner) :
    Option Nat → Option (Option Nat × Option PostToken)
  | some task => do
      let activity ← (inner.activityArray false task).head?
      let app ← inner.manager.getAppRecord activity
      some (some app.1, some (.application app.1))
  | none =>
      some (none, none)

/-- `ActivityManagerInner::findSystemTarget`, with `app` and `token`. -/
def findSystemTarget
    (inner : ActivityManagerInner)
    (targetAlias : String) : Option (Option Nat × Option PostToken) :=
  if targetAlias = Intent.targetActivityTopresume then
    match inner.getTopActivity with
    | some activity =>
        some
          ((inner.manager.getAppRecord activity).map Prod.fst,
            some (.activity activity))
    | none =>
        some (none, none)
  else if targetAlias = Intent.targetApplicationForeground then
    inner.findRootApplication (inner.getActiveTask false)
  else if targetAlias = Intent.targetApplicationHome then
    inner.findRootApplication inner.manager.lists.mHomeTask
  else
    some (none, none)

/-- The other targets of `postIntent`. -/
def findComponent
    (inner : ActivityManagerInner)
    (mTarget : String) : Option (Option Nat × Option PostToken) :=
  let names := getPackageAndComponentName mTarget
  match inner.findAppInfoWithAlive names.1 with
  | some app => do
      let record ← inner.manager.apps app
      if names.2.isEmpty then
        some (some app, some (.application app))
      else
        match ← inner.checkActivity record mTarget with
        | some activity =>
            some (some app, some (.activity activity))
        | none => do
            let service ← inner.checkService record mTarget
            some (some app, service.map .service)
  | none =>
      some (none, none)

/-- `AppRecord::scheduleReceiveIntent`. -/
def scheduleReceiveIntent
    (inner : ActivityManagerInner)
    (app : Nat)
    (token : PostToken)
    (intent : Intent) : List PostedIntent :=
  match inner.manager.apps app with
  | some record =>
      if record.mStatus ≠ .appStopped then
        [{ app := app, token := token, intent := intent }]
      else
        []
  | none =>
      []

/-- `ActivityManagerInner::postIntent`, with what it posts. -/
def postIntent
    (inner : ActivityManagerInner)
    (intent : Intent) : Option (Int × List PostedIntent) := do
  let found ←
    if Intent.isSystemTarget intent.mTarget then
      inner.findSystemTarget intent.mTarget
    else
      inner.findComponent intent.mTarget
  match found with
  | (some app, some token) =>
      some (0, inner.scheduleReceiveIntent app token intent)
  | _ =>
      some (-1, [])

end ActivityManagerInner

end ActivityManager
