import CrowdRelay.Machine
import CrowdRelay.ReplyModel

namespace CrowdRelay

open Machine Watermark

/-!
# Cycles that load and save the reply model

A cycle loads the checkpoint with what was observed since, and saves the model
when the arm is done; a load that fails leaves it an empty model, and the save
stamps the checkpoint with its own time.  Interactions are inserted in
between, some with a time long past.
-/

structure CycleLoad where
  cycle : Nat
  loadedAt : OffsetDateTime
  succeeded : Bool
  taught : TaughtModel

structure ReplyState where
  rows : List OutreachInteraction
  checkpoint : Option BrainState
  cycles : List CycleLoad

inductive ReplyMove where
  | insert
      (target : ReplyTarget)
      (direction : InteractionDirection)
      (disposition : String)
      (occurredAt : OffsetDateTime)
  | load (cycle : Nat) (succeeds : Bool)
  | save (cycle : Nat) (succeeds : Bool)
  deriving Repr, DecidableEq

structure ReplyEvent where
  time : OffsetDateTime
  move : ReplyMove
  deriving Repr, DecidableEq

namespace ReplyState

def initial : ReplyState :=
  { rows := []
    checkpoint := none
    cycles := [] }

/-- The table with one more interaction, under the next identity. -/
def inserted (state : ReplyState) (target : ReplyTarget)
    (direction : InteractionDirection) (disposition : String)
    (occurredAt : OffsetDateTime) : List OutreachInteraction :=
  state.rows ++
    [{ id := state.rows.length
       target := target
       direction := direction
       disposition := disposition
       occurredAt := occurredAt }]

/-- What the cycle starts from; a failed load leaves the default. -/
def loaded (state : ReplyState) (now : OffsetDateTime) (cycle : Nat)
    (succeeds : Bool) : CycleLoad :=
  { cycle := cycle
    loadedAt := now
    succeeded := succeeds
    taught :=
      if succeeds then loadReplyModel state.checkpoint state.rows now else .untaught }

def without (state : ReplyState) (cycle : Nat) : List CycleLoad :=
  state.cycles.filter fun load => load.cycle ≠ cycle

def apply (state : ReplyState) (event : ReplyEvent) : ReplyState :=
  match event.move with
  | .insert target direction disposition occurredAt =>
    { state with
      rows := state.inserted target direction disposition occurredAt }
  | .load cycle succeeds =>
    { state with
      cycles := state.loaded event.time cycle succeeds :: state.without cycle }
  | .save cycle succeeds =>
    match state.cycles.find? fun load => load.cycle = cycle with
    | none => state
    | some load =>
      { state with
        checkpoint :=
          if succeeds then
            some { state := load.taught, updatedAt := event.time }
          else
            state.checkpoint
        cycles := state.without cycle }

/-- The times up to which somebody has read the lessons for good. -/
def readings (state : ReplyState) : List OffsetDateTime :=
  (state.checkpoint.map BrainState.updatedAt).toList ++
    (state.cycles.filter CycleLoad.succeeded).map CycleLoad.loadedAt

end ReplyState

def replyLearner : Transducer ReplyState ReplyEvent Unit where
  step state event := (state.apply event, ())

def replyStateAfter (events : List ReplyEvent) : ReplyState := replyLearner.final .initial events

/-- The model that one successful load gives after the run. -/
def replyModelAt (events : List ReplyEvent)
    (now : OffsetDateTime) : TaughtModel :=
  loadReplyModel (replyStateAfter events).checkpoint (replyStateAfter events).rows now

/-- The clock of the run has not passed the given time. -/
def NotBefore (now : OffsetDateTime) (events : List ReplyEvent) : Prop :=
  ∀ event ∈ events, event.time ≤ now

structure TeachesOnce (events : List ReplyEvent) : Prop where
  once :
    ∀ now,
      NotBefore now events →
      ∀ lesson ∈ observedLessons (replyStateAfter events).rows,
        lesson.matured now →
        (replyModelAt events now).lessons.filter
            (fun taught => taught.pitch = lesson.pitch) =
          [lesson]
  kept :
    ∀ before later,
      events = before ++ later →
      ∀ saved ∈ (replyStateAfter before).checkpoint,
        ∀ now,
          NotBefore now events →
          ∀ lesson ∈ saved.state.lessons,
            lesson ∈ (replyModelAt events now).lessons
  coldStart :
    ∀ now,
      NotBefore now events →
      (replyModelAt events now).model =
        (coldStart (replyStateAfter events).rows now).model

def observedUpTo (rows : List OutreachInteraction)
    (point : OffsetDateTime) : List ReplyLesson :=
  (observedLessons rows).filter fun lesson => lesson.observedAt ≤ point

/-- What an event must be for the watermark to serve it. -/
def Punctual (past : List ReplyEvent) (state : ReplyState)
    (event : ReplyEvent) : Prop :=
  NotBefore event.time past ∧
    match event.move with
    | .insert target direction disposition occurredAt =>
      occurredAt ≤ event.time ∧
        ∀ reading ∈ state.readings,
          observedUpTo
              (state.inserted target direction disposition occurredAt)
              reading =
            observedUpTo state.rows reading
    | .load _ _ => True
    | .save cycle succeeds =>
      succeeds →
      ∀ load ∈ state.cycles,
        load.cycle = cycle →
        load.succeeded ∧
          ∀ lesson ∈ observedUpTo state.rows event.time,
            lesson.observedAt ≤ load.loadedAt ∧ lesson.matured load.loadedAt

section Lessons

variable {rows : List OutreachInteraction} {now later : OffsetDateTime}

theorem ReplyLesson.matured_mono {lesson : ReplyLesson} (matured : lesson.matured now)
    (passed : now ≤ later) :
    lesson.matured later := by
  unfold ReplyLesson.matured at matured ⊢
  simp only [Bool.or_eq_true, decide_eq_true_eq] at matured ⊢
  rcases matured with replied | waited
  · exact Or.inl replied
  · exact Or.inr (by grind)

theorem lessonOf_pitch (outbound : OutreachInteraction) :
    (lessonOf rows outbound).pitch = outbound.id := by
  unfold lessonOf
  cases firstReply rows outbound <;> rfl

theorem observedAt_le_of_matured (dated : ∀ row ∈ rows, row.occurredAt ≤ now)
    {lesson : ReplyLesson} (observed : lesson ∈ observedLessons rows)
    (matured : lesson.matured now) :
    lesson.observedAt ≤ now := by
  obtain ⟨outbound, _, rfl⟩ := List.mem_map.mp observed
  unfold lessonOf ReplyLesson.matured at *
  cases reply : firstReply rows outbound with
  | none =>
    simp only [reply] at matured ⊢
    simp at matured
    grind
  | some answer =>
    have member := List.mem_of_mem_head? (Option.mem_def.mpr reply)
    exact dated answer (List.mem_filter.mp (mem_inStampOrder.mp member)).1

theorem TaughtModel.teach_teach (taught : TaughtModel) (first second : List ReplyLesson) :
    (taught.teach first).teach second = taught.teach (first ++ second) := by
  simp [TaughtModel.teach, ReplyProbabilityModel.updateAll, List.append_assoc]

theorem coldStart_eq :
    coldStart rows now = TaughtModel.untaught.teach
        (inStampOrder ReplyLesson.observedAt
          ((observedLessons rows).filter fun lesson =>
            lesson.matured now)) := by
  simp [coldStart, loadReplyModel, loadOutreachReplyOutcomes]

/-- What a checkpoint has learned is what was observed up to its stamp. -/
structure Faithful
    (rows : List OutreachInteraction)
    (saved : BrainState) : Prop where
  taught :
    saved.state =
      TaughtModel.untaught.teach
        (inStampOrder ReplyLesson.observedAt
          (observedUpTo rows saved.updatedAt))
  matured :
    ∀ lesson ∈ observedUpTo rows saved.updatedAt,
      lesson.matured saved.updatedAt

theorem loadReplyModel_eq_coldStart {saved : BrainState} (faithful : Faithful rows saved)
    (passed : saved.updatedAt ≤ now) :
    loadReplyModel (some saved) rows now = coldStart rows now := by
  have early :
      ((observedLessons rows).filter fun lesson =>
          lesson.matured now).filter
          (fun lesson => lesson.observedAt ≤ saved.updatedAt) =
        observedUpTo rows saved.updatedAt := by
    rw [List.filter_filter]
    refine List.filter_congr fun lesson observed => ?_
    by_cases upTo : lesson.observedAt ≤ saved.updatedAt
    · have known := faithful.matured lesson
          (List.mem_filter.mpr ⟨observed, decide_eq_true upTo⟩)
      simp [upTo, ReplyLesson.matured_mono known passed]
    · simp [upTo]
  have late :
      loadOutreachReplyOutcomes rows now (some saved.updatedAt) =
        inStampOrder ReplyLesson.observedAt
          (((observedLessons rows).filter fun lesson =>
              lesson.matured now).filter
            fun lesson => saved.updatedAt < lesson.observedAt) := by
    unfold loadOutreachReplyOutcomes
    rw [List.filter_filter]
    congr 1
    refine List.filter_congr fun lesson _ => ?_
    simp [Bool.and_comm]
  rw [coldStart_eq, inStampOrder_split ReplyLesson.observedAt _ saved.updatedAt, early,
    loadReplyModel, late, faithful.taught, TaughtModel.teach_teach]

end Lessons

section Histories

variable {past : List ReplyEvent} {state : ReplyState} {event : ReplyEvent}

theorem NotBefore.of_append {now : OffsetDateTime} {later : List ReplyEvent}
    (passed : NotBefore now (past ++ later)) :
    NotBefore now past :=
  fun earlier member => passed earlier (List.mem_append_left _ member)

theorem NotBefore.last {now : OffsetDateTime} (passed : NotBefore now (past ++ [event])) :
    event.time ≤ now :=
  passed event (by simp)

/-- What a run of punctual events makes of the state. -/
structure ReplyHistory
    (past : List ReplyEvent)
    (state : ReplyState) : Prop where
  read :
    ∀ reading ∈ state.readings,
      ∀ now, NotBefore now past → reading ≤ now
  dated :
    ∀ row ∈ state.rows,
      ∀ now, NotBefore now past → row.occurredAt ≤ now
  identified :
    state.rows.map OutreachInteraction.id = List.range state.rows.length
  checkpoint : ∀ saved ∈ state.checkpoint, Faithful state.rows saved
  cycles :
    ∀ load ∈ state.cycles,
      load.succeeded →
      load.taught =
        TaughtModel.untaught.teach
          (inStampOrder ReplyLesson.observedAt
            ((observedUpTo state.rows load.loadedAt).filter
              fun lesson => lesson.matured load.loadedAt))

theorem replyHistory_initial : ReplyHistory [] .initial where
  read := by
    intro reading absent
    cases absent
  dated := by
    intro row absent
    cases absent
  identified := rfl
  checkpoint := by
    intro saved absent
    cases absent
  cycles := by
    intro load absent
    cases absent

theorem mem_readings_of_checkpoint {saved : BrainState} (isSaved : saved ∈ state.checkpoint) :
    saved.updatedAt ∈ state.readings := by
  rw [ReplyState.readings, Option.mem_def.mp isSaved]
  exact List.mem_append_left _ List.mem_cons_self

theorem mem_readings_of_cycle {load : CycleLoad} (open_ : load ∈ state.cycles)
    (succeeded : load.succeeded) :
    load.loadedAt ∈ state.readings :=
  List.mem_append_right _ (List.mem_map.mpr ⟨load, List.mem_filter.mpr ⟨open_, succeeded⟩, rfl⟩)

theorem readings_cases {reading : OffsetDateTime} (isReading : reading ∈ state.readings) :
    (∃ saved ∈ state.checkpoint, reading = saved.updatedAt) ∨
      ∃ load ∈ state.cycles, load.succeeded ∧ reading = load.loadedAt := by
  rcases List.mem_append.mp isReading with ofCheckpoint | ofCycle
  · left
    obtain ⟨saved, isSaved, same⟩ := Option.map_eq_some_iff.mp (Option.mem_toList.mp ofCheckpoint)
    exact ⟨saved, isSaved, same.symm⟩
  · right
    obtain ⟨load, kept, same⟩ := List.mem_map.mp ofCycle
    obtain ⟨isOpen, succeeded⟩ := List.mem_filter.mp kept
    exact ⟨load, isOpen, succeeded, same.symm⟩

section

variable (history : ReplyHistory past state)
include history

theorem ReplyHistory.loadReplyModel_eq {now : OffsetDateTime} (passed : NotBefore now past) :
    loadReplyModel state.checkpoint state.rows now = coldStart state.rows now := by
  cases held : state.checkpoint with
  | none => rfl
  | some saved =>
    exact loadReplyModel_eq_coldStart (history.checkpoint saved held)
        (history.read _ (mem_readings_of_checkpoint held) now passed)

/-- An interaction that changes nothing read before keeps the history. -/
theorem ReplyHistory.insert {target : ReplyTarget} {direction : InteractionDirection}
    {disposition : String} {occurredAt : OffsetDateTime} (isDated : occurredAt ≤ event.time)
    (unread :
      ∀ reading ∈ state.readings,
        observedUpTo (state.inserted target direction disposition occurredAt) reading =
          observedUpTo state.rows reading) :
    ReplyHistory (past ++ [event])
      { state with
        rows := state.inserted target direction disposition occurredAt }
    where
  read reading isReading now passed := history.read reading isReading now passed.of_append
  dated := by
    intro row member now passed
    rcases List.mem_append.mp member with known | isNew
    · exact history.dated row known now passed.of_append
    · rw [List.mem_singleton.mp isNew]
      exact le_trans isDated passed.last
  identified := by
    simp only [ReplyState.inserted, List.map_append, List.map_singleton,
      List.length_append, List.length_singleton, List.range_succ,
      history.identified]
  checkpoint := by
    intro saved isSaved
    have same := unread _ (mem_readings_of_checkpoint isSaved)
    have faithful := history.checkpoint saved isSaved
    exact
      { taught := by
          rw [same]
          exact faithful.taught
        matured := by
          rw [same]
          exact faithful.matured }
  cycles := by
    intro load isOpen succeeded
    have same := unread _ (mem_readings_of_cycle isOpen succeeded)
    rw [same]
    exact history.cycles load isOpen succeeded

theorem ReplyHistory.load (inOrder : NotBefore event.time past) (cycle : Nat) (succeeds : Bool) :
    ReplyHistory (past ++ [event])
      { state with
        cycles := state.loaded event.time cycle succeeds :: state.without cycle } where
  read := by
    intro reading isReading now passed
    rcases readings_cases isReading with
      ⟨saved, isSaved, rfl⟩ | ⟨load, isOpen, succeeded, rfl⟩
    · exact history.read _ (mem_readings_of_checkpoint isSaved) now
          passed.of_append
    · rcases List.mem_cons.mp isOpen with isNew | isOld
      · rw [isNew]
        exact passed.last
      · exact history.read _
            (mem_readings_of_cycle (List.mem_filter.mp isOld).1 succeeded)
            now passed.of_append
  dated row member now passed := history.dated row member now passed.of_append
  identified := history.identified
  checkpoint := history.checkpoint
  cycles := by
    intro load isOpen succeeded
    rcases List.mem_cons.mp isOpen with isNew | isOld
    · subst isNew
      have loads : succeeds = true := succeeded
      subst loads
      have matured :
          ((observedUpTo state.rows event.time).filter
              fun lesson => lesson.matured event.time) =
            (observedLessons state.rows).filter fun lesson => lesson.matured event.time := by
        rw [observedUpTo, List.filter_filter]
        refine List.filter_congr fun lesson observed => ?_
        by_cases known : lesson.matured event.time
        · simp [known,
            observedAt_le_of_matured (fun row member => history.dated row member _ inOrder)
              observed known]
        · simp [known]
      change loadReplyModel state.checkpoint state.rows event.time = TaughtModel.untaught.teach
            (inStampOrder ReplyLesson.observedAt
              ((observedUpTo state.rows event.time).filter fun lesson => lesson.matured event.time))
      rw [history.loadReplyModel_eq inOrder, coldStart_eq, matured]
    · exact history.cycles load (List.mem_filter.mp isOld).1 succeeded

theorem ReplyHistory.drop (cycle : Nat) :
    ReplyHistory (past ++ [event]) { state with cycles := state.without cycle } where
  read := by
    intro reading isReading now passed
    rcases readings_cases isReading with
      ⟨saved, isSaved, rfl⟩ | ⟨load, isOpen, succeeded, rfl⟩
    · exact history.read _ (mem_readings_of_checkpoint isSaved) now
          passed.of_append
    · exact history.read _
          (mem_readings_of_cycle (List.mem_filter.mp isOpen).1 succeeded)
          now passed.of_append
  dated row member now passed := history.dated row member now passed.of_append
  identified := history.identified
  checkpoint := history.checkpoint
  cycles load isOpen := history.cycles load (List.mem_filter.mp isOpen).1

/-- What a timely load learned is what is observed up to the save. -/
theorem ReplyHistory.faithful (inOrder : NotBefore event.time past) {load : CycleLoad}
    (isOpen : load ∈ state.cycles) (succeeded : load.succeeded)
    (nothingNew :
      ∀ lesson ∈ observedUpTo state.rows event.time,
        lesson.observedAt ≤ load.loadedAt ∧ lesson.matured load.loadedAt) :
    Faithful state.rows { state := load.taught, updatedAt := event.time } := by
  have before : load.loadedAt ≤ event.time :=
    history.read _ (mem_readings_of_cycle isOpen succeeded) _ inOrder
  have same :
      ((observedUpTo state.rows load.loadedAt).filter
          fun lesson => lesson.matured load.loadedAt) =
        observedUpTo state.rows event.time := by
    rw [observedUpTo, List.filter_filter]
    refine List.filter_congr fun lesson observed => ?_
    by_cases upTo : lesson.observedAt ≤ event.time
    · obtain ⟨early, known⟩ := nothingNew lesson
          (List.mem_filter.mpr ⟨observed, decide_eq_true upTo⟩)
      simp [upTo, early, known]
    · have notEarly : ¬ lesson.observedAt ≤ load.loadedAt :=
        fun early => upTo (le_trans early before)
      simp [upTo, notEarly]
  refine ⟨?_, fun lesson upTo => ?_⟩
  · rw [history.cycles load isOpen succeeded, same]
  · exact ReplyLesson.matured_mono (nothingNew lesson upTo).2 before

theorem ReplyHistory.save {load : CycleLoad}
    (faithful : Faithful state.rows { state := load.taught, updatedAt := event.time })
    (cycle : Nat) :
    ReplyHistory (past ++ [event])
      { state with
        checkpoint := some { state := load.taught, updatedAt := event.time }
        cycles := state.without cycle } where
  read := by
    intro reading isReading now passed
    rcases readings_cases isReading with
      ⟨saved, isSaved, rfl⟩ | ⟨other, isOpen, succeeded, rfl⟩
    · obtain rfl := Option.some.inj isSaved
      exact passed.last
    · exact history.read _
          (mem_readings_of_cycle (List.mem_filter.mp isOpen).1 succeeded)
          now passed.of_append
  dated row member now passed := history.dated row member now passed.of_append
  identified := history.identified
  checkpoint := by
    intro saved isSaved
    obtain rfl := Option.some.inj isSaved
    exact faithful
  cycles other isOpen := history.cycles other (List.mem_filter.mp isOpen).1

theorem ReplyHistory.idle :
    ReplyHistory (past ++ [event]) state where
  read reading isReading now passed := history.read reading isReading now passed.of_append
  dated row member now passed := history.dated row member now passed.of_append
  identified := history.identified
  checkpoint := history.checkpoint
  cycles := history.cycles

/-- A punctual event keeps the history. -/
theorem ReplyHistory.apply (punctual : Punctual past state event) :
    ReplyHistory (past ++ [event]) (state.apply event) := by
  obtain ⟨inOrder, fits⟩ := punctual
  unfold ReplyState.apply
  cases moved : event.move with
  | insert target direction disposition occurredAt =>
    rw [moved] at fits
    exact history.insert fits.1 fits.2
  | load cycle succeeds => exact history.load inOrder cycle succeeds
  | save cycle succeeds =>
    rw [moved] at fits
    dsimp only at fits ⊢
    cases found : state.cycles.find? fun load => load.cycle = cycle with
    | none => exact history.idle
    | some load =>
      cases succeeds with
      | false => exact history.drop cycle
      | true =>
        have isOpen := List.mem_of_find?_eq_some found
        have named : load.cycle = cycle := by
          simpa using List.find?_some found
        obtain ⟨succeeded, nothingNew⟩ := fits rfl load isOpen named
        exact history.save (history.faithful inOrder isOpen succeeded nothingNew) cycle

end

/-- A checkpoint at least as late as the point has these lessons up to it. -/
def Remembers (point : OffsetDateTime) (lessons : List ReplyLesson)
    (state : ReplyState) : Prop :=
  (∃ saved ∈ state.checkpoint, point ≤ saved.updatedAt) ∧ observedUpTo state.rows point = lessons

theorem observedUpTo_of_le {rows : List OutreachInteraction}
    {point later : OffsetDateTime} (before : point ≤ later) :
    observedUpTo rows point =
      (observedUpTo rows later).filter fun lesson => lesson.observedAt ≤ point := by
  unfold observedUpTo
  rw [List.filter_filter]
  refine List.filter_congr fun lesson _ => ?_
  by_cases upTo : lesson.observedAt ≤ point
  · simp [upTo, le_trans upTo before]
  · simp [upTo]

theorem Remembers.apply {point : OffsetDateTime} {lessons : List ReplyLesson}
    (remembers : Remembers point lessons state) (history : ReplyHistory past state)
    (punctual : Punctual past state event) :
    Remembers point lessons (state.apply event) := by
  obtain ⟨⟨saved, isSaved, before⟩, same⟩ := remembers
  obtain ⟨inOrder, fits⟩ := punctual
  unfold ReplyState.apply
  cases moved : event.move with
  | insert target direction disposition occurredAt =>
    rw [moved] at fits
    refine ⟨⟨saved, isSaved, before⟩, ?_⟩
    rw [observedUpTo_of_le before, fits.2 _ (mem_readings_of_checkpoint isSaved),
      ← observedUpTo_of_le before]
    exact same
  | load cycle succeeds => exact ⟨⟨saved, isSaved, before⟩, same⟩
  | save cycle succeeds =>
    dsimp only
    cases state.cycles.find? fun load => load.cycle = cycle with
    | none => exact ⟨⟨saved, isSaved, before⟩, same⟩
    | some load =>
      cases succeeds with
      | false => exact ⟨⟨saved, isSaved, before⟩, same⟩
      | true =>
        have passed : saved.updatedAt ≤ event.time :=
          history.read _ (mem_readings_of_checkpoint isSaved) _ inOrder
        exact ⟨⟨_, rfl, le_trans before passed⟩, same⟩

end Histories

theorem replyLearner_neverHalts (output : Unit) : replyLearner.halts output = false := rfl

theorem replyStateAfter_append_singleton (before : List ReplyEvent) (event : ReplyEvent) :
    replyStateAfter (before ++ [event]) = (replyStateAfter before).apply event := by
  rw [replyStateAfter, replyLearner.final_append replyLearner_neverHalts,
    replyLearner.final_cons, replyLearner_neverHalts,
    if_neg Bool.false_ne_true]
  rfl

def PunctualRun (events : List ReplyEvent) : Prop := replyLearner.EveryStep Punctual .initial events

theorem replyHistory_of_punctualRun {events : List ReplyEvent} (punctual : PunctualRun events) :
    ReplyHistory events (replyStateAfter events) :=
  replyLearner.final_history_of_everyStep ReplyHistory replyLearner_neverHalts
    (fun _ _ _ isPunctual history => history.apply isPunctual)
    replyHistory_initial punctual

theorem remembers_of_punctualRun {events before later : List ReplyEvent}
    (punctual : PunctualRun events) (split : events = before ++ later)
    {point : OffsetDateTime} {lessons : List ReplyLesson}
    (remembers : Remembers point lessons (replyStateAfter before)) :
    Remembers point lessons (replyStateAfter events) := by
  induction later using List.reverseRecOn generalizing events with
  | nil =>
    rw [split, List.append_nil]
    exact remembers
  | append_singleton rest event inductionHypothesis =>
    rw [← List.append_assoc] at split
    have earlier := punctual.of_append split
    rw [split, replyStateAfter_append_singleton]
    exact (inductionHypothesis earlier rfl).apply (replyHistory_of_punctualRun earlier)
        (punctual (before ++ rest) event [] split)

theorem filter_pitch_eq_singleton {lessons : List ReplyLesson}
    (distinct : (lessons.map ReplyLesson.pitch).Nodup) {lesson : ReplyLesson}
    (member : lesson ∈ lessons) :
    lessons.filter (fun taught => taught.pitch = lesson.pitch) = [lesson] := by
  induction lessons with
  | nil => cases member
  | cons first rest inductionHypothesis =>
    rw [List.map_cons, List.nodup_cons] at distinct
    obtain ⟨fresh, distinctRest⟩ := distinct
    rcases List.mem_cons.mp member with isFirst | inRest
    · subst isFirst
      rw [List.filter_cons_of_pos (by simp), List.cons_inj_right, List.filter_eq_nil_iff]
      intro other inRest same
      refine fresh (List.mem_map.mpr ⟨other, inRest, ?_⟩)
      simpa using same
    · rw [List.filter_cons_of_neg, inductionHypothesis distinctRest inRest]
      intro same
      refine fresh (List.mem_map.mpr ⟨lesson, inRest, ?_⟩)
      exact (of_decide_eq_true same).symm

theorem observedLessons_pitches_nodup {rows : List OutreachInteraction}
    (identified : rows.map OutreachInteraction.id = List.range rows.length) :
    ((observedLessons rows).map ReplyLesson.pitch).Nodup := by
  have pitches :
      (observedLessons rows).map ReplyLesson.pitch =
        (rows.filter fun row => row.direction = .outbound).map
          OutreachInteraction.id := by
    rw [observedLessons, List.map_map]
    exact List.map_congr_left fun outbound _ => lessonOf_pitch outbound
  rw [pitches]
  refine List.Nodup.sublist (List.filter_sublist.map _) ?_
  rw [identified]
  exact List.nodup_range

/--
Where every event is punctual, every pitch that matured teaches the model
exactly once, no saved lesson is lost, and the model is the one of a cold
start.
-/
theorem teachesOnce_of_punctualRun
    (events : List ReplyEvent)
    (punctual : PunctualRun events) :
    TeachesOnce events := by
  have history := replyHistory_of_punctualRun punctual
  have cold :
      ∀ now,
        NotBefore now events →
        replyModelAt events now = coldStart (replyStateAfter events).rows now :=
    fun now passed => history.loadReplyModel_eq passed
  have lessons :
      ∀ now,
        NotBefore now events →
        (replyModelAt events now).lessons =
          inStampOrder ReplyLesson.observedAt
            ((observedLessons (replyStateAfter events).rows).filter
              fun lesson => lesson.matured now) := by
    intro now passed
    rw [cold now passed, coldStart_eq]
    rfl
  refine
    { once := ?_
      kept := ?_
      coldStart := fun now passed => by rw [cold now passed] }
  · intro now passed lesson observed matured
    rw [lessons now passed]
    refine filter_pitch_eq_singleton ?_ ?_
    · refine ((inStampOrder_perm ReplyLesson.observedAt _).map _).nodup_iff.mpr ?_
      exact (observedLessons_pitches_nodup history.identified).sublist
          (List.filter_sublist.map _)
    · exact mem_inStampOrder.mpr (List.mem_filter.mpr ⟨observed, matured⟩)
  · intro before later split saved isSaved now passed lesson learned
    have historyBefore := replyHistory_of_punctualRun (punctual.of_append split)
    have faithful := historyBefore.checkpoint saved isSaved
    have upTo : lesson ∈ observedUpTo (replyStateAfter before).rows saved.updatedAt := by
      rw [faithful.taught] at learned
      exact mem_inStampOrder.mp learned
    obtain ⟨_, same⟩ := remembers_of_punctualRun punctual split
        (⟨⟨saved, isSaved, le_refl _⟩, rfl⟩ :
          Remembers saved.updatedAt _ (replyStateAfter before))
    have known := faithful.matured lesson upTo
    have stampPassed : saved.updatedAt ≤ now :=
      historyBefore.read _ (mem_readings_of_checkpoint isSaved) now
        (fun event member => passed event (split ▸ List.mem_append_left _ member))
    rw [← same] at upTo
    rw [lessons now passed]
    exact mem_inStampOrder.mpr
        (List.mem_filter.mpr
          ⟨(List.mem_filter.mp upTo).1, ReplyLesson.matured_mono known stampPassed⟩)

/-- So many days after the epoch. -/
def dayTime (day : Int) : OffsetDateTime := day * 86400000000000

/-- A pitch that nobody answers, read and saved after a month. -/
def silentPitch : List ReplyEvent :=
  [{ time := dayTime 0
     move := .insert { id := "radio", targetKind := "radio" } .outbound "none" (dayTime 0) },
    { time := dayTime 31, move := .load 1 true },
    { time := dayTime 31, move := .save 1 true }]

theorem teachesOnce_silentPitch : TeachesOnce silentPitch := by
  refine teachesOnce_of_punctualRun silentPitch ?_
  refine replyLearner.everyStep_cons replyLearner_neverHalts ?_ ?_
  · exact ⟨by simp [NotBefore], by decide, by simp [ReplyState.readings, ReplyState.initial]⟩
  refine replyLearner.everyStep_cons replyLearner_neverHalts ?_ ?_
  · exact ⟨by unfold NotBefore; decide, trivial⟩
  refine replyLearner.everyStep_cons replyLearner_neverHalts ?_
    (replyLearner.everyStep_nil _ _)
  refine ⟨by unfold NotBefore; decide, fun _ load isOpen _ => ?_⟩
  obtain rfl := List.mem_singleton.mp isOpen
  exact ⟨rfl, by decide +kernel⟩

/-- The next cycle cannot load the model, and saves what it has instead. -/
def forgottenPitch : List ReplyEvent :=
  silentPitch ++
    [{ time := dayTime 32, move := .load 2 false }, { time := dayTime 32, move := .save 2 true }]

theorem forgottenPitch_unlearned : ¬ TeachesOnce forgottenPitch := by
  intro teaches
  have passed : NotBefore (dayTime 33) forgottenPitch := by
    unfold NotBefore
    decide
  have observed :
      observedLessons (replyStateAfter forgottenPitch).rows =
        [lessonOf (replyStateAfter silentPitch).rows
          { id := 0
            target := { id := "radio", targetKind := "radio" }
            direction := .outbound
            disposition := "none"
            occurredAt := dayTime 0 }] := by
    decide +kernel
  have unlearned : (replyModelAt forgottenPitch (dayTime 33)).lessons = [] := by
    decide +kernel
  have once := teaches.once (dayTime 33) passed _
      (observed ▸ List.mem_singleton.mpr rfl) (by decide +kernel)
  rw [unlearned] at once
  cases once

end CrowdRelay
