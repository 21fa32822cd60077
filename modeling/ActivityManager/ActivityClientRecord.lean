import ActivityManager.ActivityRecord

/-!
# Activities in the client

The application process keeps an `ActivityClientRecord` for every activity it
has created.  Its handlers run the activity's callbacks and report the new
status to the server; the reports are returned in the order they are sent.
-/

namespace ActivityManager

/-- The callbacks of an `Activity`. -/
inductive ActivityCallback where
  | setIntent (intent : Intent)
  | onNewIntent (intent : Intent)
  | onRestart
  | performCreate
  | performStart
  | performResume
  | performPause
  | performStop
  | performDestroy
  deriving Repr, DecidableEq

/-- `ActivityClientRecord`. -/
structure ActivityClientRecord where
  mActivityName : String
  mStatus : Status
  deriving Repr, DecidableEq

/-- What a handler leaves behind. -/
structure ClientEffect where
  record : ActivityClientRecord
  callbacks : List ActivityCallback
  /-- `reportActivityStatus` calls to the server. -/
  reports : List Status
  deriving Repr, DecidableEq

namespace ActivityClientRecord

/-- The constructor of `ActivityClientRecord`. -/
def fresh (name : String) : ActivityClientRecord where
  mActivityName := name
  mStatus := Status.creating

/-- Run callbacks, then `reportActivityStatus`. -/
def report
    (record : ActivityClientRecord)
    (callbacks : List ActivityCallback)
    (status : Status) : ClientEffect where
  record := { record with mStatus := status }
  callbacks := callbacks
  reports := [status]

/-- `ActivityClientRecord::onCreate`; the callback may fail. -/
def onCreate
    (record : ActivityClientRecord)
    (intent : Intent)
    (created : Bool) : ClientEffect :=
  record.report [.setIntent intent, .performCreate]
    (if created then Status.created else Status.error)

/-- `ActivityClientRecord::onStart`. -/
def onStart
    (record : ActivityClientRecord)
    (intent : Option Intent) : ClientEffect :=
  let received :=
    if record.mStatus = Status.created then
      match intent with
      | some intent => [ActivityCallback.setIntent intent]
      | none => []
    else
      (match intent with
        | some intent =>
            [ActivityCallback.setIntent intent, .onNewIntent intent]
        | none => []) ++
        (if record.mStatus = Status.stopped then [.onRestart] else [])
  record.report (received ++ [.performStart]) Status.started

/-- `ActivityClientRecord::onResume`. -/
def onResume
    (record : ActivityClientRecord)
    (intent : Option Intent) : ClientEffect :=
  let received :=
    match intent with
    | some intent =>
        [ActivityCallback.setIntent intent, .onNewIntent intent]
    | none => []
  record.report (received ++ [.performResume]) Status.resumed

/-- `ActivityClientRecord::onPause`. -/
def onPause (record : ActivityClientRecord) : ClientEffect :=
  record.report [.performPause] Status.paused

/-- `ActivityClientRecord::onStop`. -/
def onStop (record : ActivityClientRecord) : ClientEffect :=
  record.report [.performStop] Status.stopped

/-- `ActivityClientRecord::onDestroy`. -/
def onDestroy (record : ActivityClientRecord) : ClientEffect :=
  record.report [.performDestroy] Status.destroyed

end ActivityClientRecord

/--
What the client knows about one token: the record that `findActivity` returns,
and the status that the last record had, which outlives its deletion.
-/
structure ActivityClient where
  mExistActivity : Option ActivityClientRecord
  lastStatus : Status
  deriving Repr, DecidableEq

namespace ActivityClient

/-- A token the client has not heard of. -/
def unknown : ActivityClient where
  mExistActivity := none
  lastStatus := Status.init

/-- `onLaunchActivity`: a record is kept when its activity was created. -/
def onLaunchActivity
    (client : ActivityClient)
    (activityName : String)
    (intent : Intent)
    (registered created : Bool) : ActivityClient × List Status :=
  if registered then
    let effect :=
      (ActivityClientRecord.fresh activityName).onCreate intent created
    ({ mExistActivity :=
        if created then some effect.record else client.mExistActivity
       lastStatus := effect.record.mStatus },
      effect.reports)
  else
    (client, [])

/--
The common shape of `onStartActivity` to `onDestroyActivity`: a token that is
not found is ignored.
-/
def withActivity
    (client : ActivityClient)
    (handler : ActivityClientRecord → ClientEffect)
    (keeps : Bool) : ActivityClient × List Status :=
  match client.mExistActivity with
  | some record =>
      let effect := handler record
      ({ mExistActivity := if keeps then some effect.record else none
         lastStatus := effect.record.mStatus },
        effect.reports)
  | none =>
      (client, [])

/-- The client handles a command for the token. -/
def handle
    (client : ActivityClient)
    (registered created : Bool) :
    Call → ActivityClient × List Status
  | .scheduleLaunchActivity _ activityName _ intent =>
      client.onLaunchActivity activityName intent registered created
  | .scheduleStartActivity _ _ intent =>
      client.withActivity (·.onStart intent) true
  | .scheduleResumeActivity _ _ intent =>
      client.withActivity (·.onResume intent) true
  | .schedulePauseActivity _ _ =>
      client.withActivity (·.onPause) true
  | .scheduleStopActivity _ _ =>
      client.withActivity (·.onStop) true
  | .scheduleDestroyActivity _ _ =>
      client.withActivity (·.onDestroy) false
  | _ =>
      (client, [])

end ActivityClient

end ActivityManager
