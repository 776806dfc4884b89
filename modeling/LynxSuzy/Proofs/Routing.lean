import LynxSuzy.Proofs.Refusals
import LynxSuzy.Proofs.Writers

/-!
Contract: which messages a journal puts in words and where their lines end up, told
from what it was asked.

Owns: calls to a journal with their answers; the levels in force, the place that
lines go to and the lines for each place, as a row of calls has them; and that a
journal does as they say, whenever its writers take their steps.

Three things are taken for granted: no message is refused for coming too fast, lines
can be written, and the writers of a file have written all they were sent when it is
opened again. Two writers with lines for one file might put them there in any order.

Does **not** own: what becomes of messages that are refused (`Proofs.Refusals`).
-/

set_option autoImplicit false

namespace LynxSuzy.Journal

/-! ## Calls -/

inductive Call where
  | setOverall (level : Level)
  | setOwn (category : Category) (level : Level)
  /-- Silence all levels. -/
  | reset
  | setRate (perSecond : Nat)
  /-- Open the file at a path, where the system does with paths as it is given. -/
  | openFile (system : System) (path : String)
  | closeFile
  | log (now : Time) (category : Category) (level : Level) (text : String)

inductive Answer where
  | done
  /-- Why a file could not be opened, if it could not. -/
  | opened (refusal : Option SystemError)
  /-- Whether a message was put in words. -/
  | logged (worded : Bool)
  deriving DecidableEq

def answer (journal : Journal) : Call → Answer × Journal
  | .setOverall level =>
      (.done, { journal with thresholds := journal.thresholds.withOverall level })
  | .setOwn category level =>
      (.done, { journal with thresholds := journal.thresholds.withOwn category level })
  | .reset => (.done, journal.reset)
  | .setRate perSecond => (.done, { journal with limiter := journal.limiter.withRate perSecond })
  | .openFile system path =>
      let tried := journal.openFile system path
      (.opened tried.1, tried.2)
  | .closeFile => (.done, journal.closeFile)
  | .log now category level text =>
      let recorded := journal.record now category level text
      (.logged recorded.1, recorded.2)

structure Exchange where
  call : Call
  answer : Answer

namespace Exchange

def overall (exchange : Exchange) (level : Level) : Level :=
  match exchange.call with
  | .setOverall set => set
  | .reset => .off
  | _ => level

def own (category : Category) (exchange : Exchange) (level : Level) : Level :=
  match exchange.call with
  | .setOwn named set => if named = category then set else level
  | .reset => .off
  | _ => level

/-- The place that lines go to after an exchange. It changes when a file could be opened
and when files are closed. -/
def place (exchange : Exchange) (place : Place) : Place :=
  match exchange.call, exchange.answer with
  | .openFile system path, .opened none => (system path).ready?.elim place .file
  | .closeFile, _ => .standardError
  | _, _ => place

def lines (exchange : Exchange) : List String :=
  match exchange.call, exchange.answer with
  | .log _ category _ text, .logged true => [line category text]
  | _, _ => []

end Exchange

/-! ## Rows of calls -/

def overallLevel (history : List Exchange) : Level :=
  history.foldl (fun level exchange => exchange.overall level) .off

def ownLevel (category : Category) (history : List Exchange) : Level :=
  history.foldl (fun level exchange => exchange.own category level) .off

/-- The place that lines go to after some exchanges, from a place on. -/
def placeFrom (place : Place) (history : List Exchange) : Place :=
  history.foldl (fun place exchange => exchange.place place) place

/-- Each line that was put in words, with the place that lines went to. -/
def deliveriesFrom (place : Place) : List Exchange → List (Place × String)
  | [] => []
  | exchange :: rest =>
      exchange.lines.map (Prod.mk place) ++ deliveriesFrom (exchange.place place) rest

/-- Each line that was put in words, with its one place. Lines go to standard error
until a file is opened. -/
def deliveries (history : List Exchange) : List (Place × String) :=
  deliveriesFrom .standardError history

def linesFor (place : Place) (history : List Exchange) : List String :=
  ((deliveries history).filter fun delivery => delivery.1 = place).map Prod.snd

/-- Whether a message is due to be put in words: its level is not off, and is at most
its category's own or, where that is off, at most the one for all. -/
def IsDue (history : List Exchange) (category : Category) (level : Level) : Prop :=
  level ≠ .off ∧ (level.rank ≤ (ownLevel category history).rank
    ∨ ownLevel category history = .off ∧ level.rank ≤ (overallLevel history).rank)

section Histories

variable (history : List Exchange) (exchange : Exchange)

theorem overallLevel_concat :
    overallLevel (history ++ [exchange]) = exchange.overall (overallLevel history) :=
  List.foldl_append

theorem ownLevel_concat (category : Category) :
    ownLevel category (history ++ [exchange])
      = exchange.own category (ownLevel category history) :=
  List.foldl_append

theorem placeFrom_concat (place : Place) :
    placeFrom place (history ++ [exchange]) = exchange.place (placeFrom place history) :=
  List.foldl_append

theorem deliveriesFrom_concat (place : Place) :
    deliveriesFrom place (history ++ [exchange])
      = deliveriesFrom place history
        ++ exchange.lines.map (Prod.mk (placeFrom place history)) := by
  induction history generalizing place with
  | nil => exact List.append_nil _
  | cons first rest recurse =>
      rw [List.cons_append, deliveriesFrom, recurse, deliveriesFrom, List.append_assoc]
      rfl

theorem linesFor_concat (place : Place) :
    linesFor place (history ++ [exchange])
      = linesFor place history
        ++ if place = placeFrom .standardError history then exchange.lines else [] := by
  rw [linesFor, deliveries, deliveriesFrom_concat, List.filter_append, List.map_append]
  congr 1
  by_cases here : place = placeFrom .standardError history
  · subst here
    simp [List.filter_map, Function.comp_def]
  · simp [List.filter_map, Function.comp_def, here, Ne.symm here]

end Histories

/-! ## Events -/

inductive Event where
  | call (call : Call)
  /-- A writer writes a line. -/
  | write (pen : Pen)
  /-- A writer cannot write a line. -/
  | fail (pen : Pen)

def undergo (journal : Journal) : Event → Journal
  | .call call => (journal.answer call).2
  | .write pen => journal.step Writer.write pen
  | .fail pen => journal.step Writer.fail pen

def after (journal : Journal) (events : List Event) : Journal :=
  events.foldl undergo journal

def history (journal : Journal) : List Event → List Exchange
  | [] => []
  | .call call :: rest =>
      let reply := journal.answer call
      ⟨call, reply.1⟩ :: reply.2.history rest
  | event :: rest => (journal.undergo event).history rest

/-- What is taken for granted of an event: a message that is kept is not refused, nothing
waits for a file that is opened, and lines can be written. -/
def Permits (journal : Journal) : Event → Prop
  | .call (.log now category level _) =>
      journal.thresholds.keeps category level = true →
        (journal.limiter.judge category now).1.admitted = true
  | .call (.openFile system path) =>
      ∀ file ∈ (system path).ready?, journal.underway (.file file) = []
  | .fail _ => False
  | _ => True

def PermitsAll (journal : Journal) : List Event → Prop
  | [] => True
  | event :: rest => journal.Permits event ∧ (journal.undergo event).PermitsAll rest

instance decidablePermits (journal : Journal) : (event : Event) → Decidable (journal.Permits event)
  | .call (.log _ _ _ _) => inferInstanceAs (Decidable (_ → _))
  | .call (.openFile _ _) => inferInstanceAs (Decidable (∀ _ ∈ _, _))
  | .call (.setOverall _) | .call (.setOwn _ _) | .call .reset | .call (.setRate _)
  | .call .closeFile | .write _ => .isTrue trivial
  | .fail _ => .isFalse id

instance decidablePermitsAll :
    (events : List Event) → (journal : Journal) → Decidable (journal.PermitsAll events)
  | [], _ => .isTrue trivial
  | event :: rest, journal =>
      have := decidablePermitsAll rest (journal.undergo event)
      inferInstanceAs (Decidable (_ ∧ _))

theorem step_keeps (journal : Journal) (take : Writer → Shelf → Writer × Shelf) (pen : Pen) :
    (journal.step take pen).thresholds = journal.thresholds
      ∧ (journal.step take pen).limiter = journal.limiter := by
  unfold step
  split
  · exact ⟨rfl, rfl⟩
  · cases pen <;> exact ⟨rfl, rfl⟩

theorem emit_keeps (journal : Journal) (line : String) :
    (journal.emit line).thresholds = journal.thresholds
      ∧ (journal.emit line).limiter = journal.limiter := by
  unfold Journal.emit
  split
  · split <;> exact ⟨rfl, rfl⟩
  · exact ⟨rfl, rfl⟩

theorem emitAll_keeps (lines : List String) :
    ∀ journal : Journal, (journal.emitAll lines).thresholds = journal.thresholds
      ∧ (journal.emitAll lines).limiter = journal.limiter := by
  induction lines with
  | nil => exact fun _ => ⟨rfl, rfl⟩
  | cons line lines recurse =>
      intro journal
      obtain ⟨thresholds, limiter⟩ := recurse (journal.emit line)
      obtain ⟨first, second⟩ := journal.emit_keeps line
      exact ⟨thresholds.trans first, limiter.trans second⟩

section Calls

variable {journal : Journal}

section Record

variable (now : Time) (category : Category) (level : Level) (text : String)

theorem record_keeps :
    (journal.record now category level text).2.thresholds = journal.thresholds
      ∧ (journal.record now category level text).2.limiter
        = if journal.thresholds.keeps category level = true
          then (journal.limiter.judge category now).2 else journal.limiter := by
  unfold record
  split
  · exact emitAll_keeps _ _
  · exact ⟨rfl, rfl⟩

variable {now category level}

theorem record_of_kept (kept : journal.thresholds.keeps category level = true)
    (admitted : (journal.limiter.judge category now).1 = ⟨true, none⟩) :
    journal.record now category level text = (true,
      { journal with limiter := (journal.limiter.judge category now).2 }.emit
        (line category text)) := by
  rw [record, if_pos kept]
  simp only [admitted]
  rfl

theorem record_of_silent (silent : ¬journal.thresholds.keeps category level = true) :
    journal.record now category level text = (false, journal) :=
  if_neg silent

end Record

theorem answer_openFile (journal : Journal) (system : System) (path : String) :
    (∃ file, system path = .ready file
        ∧ journal.answer (.openFile system path) = (.opened none, journal.turnTo file))
      ∨ ∃ error shelf, journal.shelf.Keeps shelf
        ∧ journal.answer (.openFile system path)
          = (.opened (some error), { journal with shelf := shelf }) := by
  rcases journal.openFile_cases system path with ⟨file, ready, tried⟩ | ⟨error, shelf, keeps, tried⟩
  · exact .inl ⟨file, ready, by rw [Journal.answer, tried]⟩
  · exact .inr ⟨error, shelf, keeps, by rw [Journal.answer, tried]⟩

theorem thresholds_answer (call : Call) :
    let reply := journal.answer call
    let exchange : Exchange := ⟨call, reply.1⟩
    reply.2.thresholds.overall = exchange.overall journal.thresholds.overall
      ∧ ∀ category, reply.2.thresholds.own.get category
          = exchange.own category (journal.thresholds.own.get category) := by
  cases call with
  | setOwn named level =>
      refine ⟨rfl, fun category => ?_⟩
      by_cases own : named = category
      · subst own
        exact (PerCategory.get_set_self _ _ _).trans (if_pos rfl).symm
      · exact (PerCategory.get_set_ne _ _ (Ne.symm own)).trans (if_neg own).symm
  | reset => exact ⟨rfl, fun category => PerCategory.get_const _ _⟩
  | openFile system path =>
      dsimp only
      rcases journal.answer_openFile system path with ⟨file, _, same⟩ | ⟨error, shelf, _, same⟩
      all_goals
        rw [same]
        exact ⟨rfl, fun _ => rfl⟩
  | log now category level text =>
      have same : (journal.answer (.log now category level text)).2.thresholds
          = journal.thresholds := (record_keeps now category level text).1
      dsimp only
      rw [same]
      exact ⟨rfl, fun _ => rfl⟩
  | setOverall level => exact ⟨rfl, fun _ => rfl⟩
  | setRate perSecond => exact ⟨rfl, fun _ => rfl⟩
  | closeFile => exact ⟨rfl, fun _ => rfl⟩

/-- A call whose message is not refused leaves nothing refused to report. -/
theorem unrefused_answer (unrefused : journal.limiter.Unrefused) (call : Call)
    (permitted : journal.Permits (.call call)) : (journal.answer call).2.limiter.Unrefused := by
  cases call with
  | openFile system path =>
      rcases journal.answer_openFile system path with ⟨file, _, same⟩ | ⟨error, shelf, _, same⟩
      all_goals
        rw [same]
        exact unrefused
  | log now category level text =>
      change (journal.record now category level text).2.limiter.Unrefused
      rw [(record_keeps now category level text).2]
      split
      · rename_i keeps
        exact (unrefused.judge (permitted keeps)).2
      · exact unrefused
  | setOverall level => exact unrefused
  | setOwn category level => exact unrefused
  | reset => exact unrefused
  | setRate perSecond => exact unrefused
  | closeFile => exact unrefused

/-- **A call sends its line, if it has one, to where lines go**, and lets lines go where
it says. -/
theorem WellKept.answer (kept : journal.WellKept) (unrefused : journal.limiter.Unrefused)
    (call : Call) (permitted : journal.Permits (.call call)) :
    let reply := journal.answer call
    let exchange : Exchange := ⟨call, reply.1⟩
    reply.2.WellKept ∧ reply.2.destination = exchange.place journal.destination
      ∧ ∀ place, reply.2.sent place
          = journal.sent place ++ if place = journal.destination then exchange.lines else [] := by
  have quiet (place : Place) : journal.sent place
      = journal.sent place ++ if place = journal.destination then [] else [] := by
    rw [ite_self, List.append_nil]
  cases call with
  | openFile system path =>
      dsimp only
      rcases journal.answer_openFile system path with ⟨file, ready, same⟩ | ⟨_, shelf, keeps, same⟩
      · have found : (system path).ready? = some file := by rw [ready]; rfl
        obtain ⟨keptToo, destination, sent⟩ := kept.turnTo (permitted file found)
        rw [same]
        refine ⟨keptToo, destination.trans ?_, fun place => (sent place).trans (quiet place)⟩
        change _ = (system path).ready?.elim journal.destination .file
        rw [found]
        rfl
      · obtain ⟨keptToo, destination, _, sent⟩ := kept.shelve keeps
        rw [same]
        exact ⟨keptToo, destination, fun place => (sent place).trans (quiet place)⟩
  | closeFile =>
      obtain ⟨keptToo, destination, sent⟩ := kept.closeFile
      exact ⟨keptToo, destination, fun place => (sent place).trans (quiet place)⟩
  | log now category level text =>
      by_cases keeps : journal.thresholds.keeps category level = true
      · obtain ⟨admitted, _⟩ := unrefused.judge (permitted keeps)
        let judged : Journal := { journal with limiter := (journal.limiter.judge category now).2 }
        have keptStill : judged.WellKept := ⟨kept.agree, kept.staffed⟩
        simp only [Journal.answer, record_of_kept text keeps admitted]
        exact keptStill.emit (line category text)
      · simp only [Journal.answer, record_of_silent text keeps]
        exact ⟨kept, rfl, quiet⟩
  | setOverall level => exact ⟨⟨kept.agree, kept.staffed⟩, rfl, quiet⟩
  | setOwn category level => exact ⟨⟨kept.agree, kept.staffed⟩, rfl, quiet⟩
  | reset => exact ⟨⟨kept.agree, kept.staffed⟩, rfl, quiet⟩
  | setRate perSecond => exact ⟨⟨kept.agree, kept.staffed⟩, rfl, quiet⟩

end Calls

/-! ## Any number of events -/

/-- Every message was put in words just if it was due when it came. -/
def Ruled (history : List Exchange) : Prop :=
  ∀ earlier now category level text answer later,
    history = earlier ++ ⟨.log now category level text, answer⟩ :: later →
    (answer = .logged true ↔ IsDue earlier category level)

/-- A journal that has come to be as the calls since `start` have it. -/
structure Follows (start journal : Journal) (history : List Exchange) : Prop where
  overall : journal.thresholds.overall = overallLevel history
  own : ∀ category, journal.thresholds.own.get category = ownLevel category history
  unrefused : journal.limiter.Unrefused
  kept : journal.WellKept
  destination : journal.destination = placeFrom .standardError history
  sent : ∀ place, journal.sent place = start.contents place ++ linesFor place history
  ruled : Ruled history

section Follows

variable {start journal : Journal} {history : List Exchange}

theorem Ruled.concat (ruled : Ruled history) {exchange : Exchange}
    (rule : ∀ now category level text, exchange.call = .log now category level text →
      (exchange.answer = .logged true ↔ IsDue history category level)) :
    Ruled (history ++ [exchange]) := by
  intro earlier now category level text answer later same
  rcases List.eq_nil_or_concat later with rfl | ⟨later, last, rfl⟩
  · obtain ⟨rfl, own⟩ := List.append_inj' same rfl
    obtain rfl := List.singleton_inj.1 own
    exact rule now category level text rfl
  · rw [List.concat_eq_append, ← List.cons_append, ← List.append_assoc] at same
    exact ruled earlier now category level text answer later (List.append_inj' same rfl).1

/-- A message that is not refused is put in words just if it is due. -/
theorem Follows.logged_iff (follows : Follows start journal history) {now : Time}
    {category : Category} {level : Level} {text : String}
    (permitted : journal.Permits (.call (.log now category level text))) :
    (journal.answer (.log now category level text)).1 = .logged true
      ↔ IsDue history category level := by
  have worded : (journal.record now category level text).1
      = journal.thresholds.keeps category level := by
    unfold record
    split
    · rename_i keeps
      rw [keeps]
      exact permitted keeps
    · rename_i silent
      rw [Bool.eq_false_iff.2 silent]
  rw [Journal.answer, Answer.logged.injEq, worded, Thresholds.keeps_iff, follows.own,
    follows.overall]
  rfl

/-- **A call adds to the history what it does.** -/
theorem Follows.answer (follows : Follows start journal history) (call : Call)
    (permitted : journal.Permits (.call call)) :
    Follows start (journal.answer call).2 (history ++ [⟨call, (journal.answer call).1⟩]) := by
  obtain ⟨overall, own⟩ := journal.thresholds_answer call
  obtain ⟨kept, destination, sent⟩ := follows.kept.answer follows.unrefused call permitted
  refine ⟨?_, fun category => ?_, ?_, kept, ?_, fun place => ?_, ?_⟩
  · rw [overall, follows.overall, overallLevel_concat]
  · rw [own, follows.own, ownLevel_concat]
  · exact unrefused_answer follows.unrefused call permitted
  · rw [destination, follows.destination, placeFrom_concat]
  · rw [sent, follows.sent, linesFor_concat, follows.destination, List.append_assoc]
  · apply follows.ruled.concat
    rintro now category level text rfl
    exact follows.logged_iff permitted

theorem Follows.write (follows : Follows start journal history) (pen : Pen) :
    Follows start (journal.step Writer.write pen) history := by
  obtain ⟨kept, destination, sent⟩ := follows.kept.write pen
  obtain ⟨thresholds, limiter⟩ := journal.step_keeps Writer.write pen
  refine ⟨?_, ?_, ?_, kept, ?_, ?_, follows.ruled⟩
  · rw [thresholds, follows.overall]
  · rw [thresholds]
    exact follows.own
  · rw [limiter]
    exact follows.unrefused
  · rw [destination, follows.destination]
  · intro place
    rw [sent, follows.sent]

theorem Follows.writes (pens : List Pen) :
    ∀ {journal : Journal}, Follows start journal history →
      Follows start (pens.foldl (step · Writer.write) journal) history := by
  induction pens with
  | nil => exact fun follows => follows
  | cons pen pens recurse => exact fun follows => recurse (follows.write pen)

/-- **A journal follows its history through any number of events.** -/
theorem Follows.after (events : List Event) :
    ∀ {journal : Journal} {history : List Exchange}, Follows start journal history →
      journal.PermitsAll events →
      Follows start (journal.after events) (history ++ journal.history events) := by
  induction events with
  | nil =>
      intro journal history follows _
      rw [Journal.history, List.append_nil]
      exact follows
  | cons event rest recurse =>
      intro journal history follows permitted
      obtain ⟨first, others⟩ := permitted
      cases event with
      | call call =>
          have further := recurse (follows.answer call first) others
          rw [List.append_assoc] at further
          exact further
      | write pen => exact recurse (follows.write pen) others
      | fail pen => exact absurd first not_false

end Follows

/-- A journal of which nothing has been asked. There may be files already. -/
def beginning (shelf : Shelf) : Journal :=
  { Journal.initial with shelf := shelf }

end LynxSuzy.Journal
