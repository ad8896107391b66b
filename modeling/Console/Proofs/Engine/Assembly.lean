import Console.Proofs.Command.Patterns
import Console.Proofs.Engine.Nesting
import Mathlib.Data.List.Induction

/-!
# How expressions are put together

The lines that a session reads and no command recognises are put together to expressions: each
expression ends with the first line that makes it complete.  A session is followed through a whole
run by its identity, whatever commands, nested sessions and signals come in between.
-/

namespace Console

/-- What lines have been put together to: the texts that have become complete, in order, and the
one that waits for further lines. -/
structure Assembly where
  closed : List String := []
  waiting : String := ""
  deriving DecidableEq, Repr

namespace Assembly

/-- Puts a further line to what waits.  A blank line that would begin an expression is dropped. -/
def add (assembly : Assembly) (line : String) : Assembly :=
  if assembly.waiting = "" ∧ isBlankText line then assembly
  else
    let text := assembly.waiting ++ line ++ "\n"
    if Calculator.isComplete text then ⟨assembly.closed ++ [text], ""⟩ else ⟨assembly.closed, text⟩

/-- What waits is nothing, or neither blank nor complete. -/
def Open (assembly : Assembly) : Prop :=
  assembly.waiting = "" ∨
    isBlankText assembly.waiting = false ∧ Calculator.isComplete assembly.waiting = false

end Assembly

/-- Puts lines together. -/
def assemble (lines : List String) : Assembly := lines.foldl .add {}

theorem assemble_concat (lines : List String) (line : String) :
    assemble (lines ++ [line]) = (assemble lines).add line := List.foldl_append

theorem isBlankText_append (first second : String) :
    isBlankText (first ++ second) = (isBlankText first && isBlankText second) := by
  rw [isBlankText, isBlankText, isBlankText, String.toList_append]
  exact List.all_append

namespace Assembly

/-- With a further line, what waits is blank only if the line would begin an expression and is
blank. -/
theorem Open.isBlankText_push {assembly : Assembly} (isOpen : assembly.Open) (line : String) :
    isBlankText (assembly.waiting ++ line ++ "\n") = true ↔
      assembly.waiting = "" ∧ isBlankText line = true := by
  have newline : isBlankText "\n" = true := by decide
  rw [isBlankText_append, isBlankText_append, newline, Bool.and_true, Bool.and_eq_true]
  rcases isOpen with nothing | ⟨some, _⟩
  · have blank : isBlankText "" = true := rfl
    rw [nothing]
    exact and_congr_left fun _ => iff_of_true blank rfl
  · have nonempty : assembly.waiting ≠ "" := by
      intro nothing
      rw [nothing] at some
      cases some
    rw [some]
    exact and_congr_left fun _ => iff_of_false Bool.false_ne_true nonempty

/-- Settles a text behind those that are complete: it is forgotten if it is blank, and joins them
if it is complete. -/
def settle (closed : List String) (text : String) : Assembly :=
  if isBlankText text then ⟨closed, ""⟩
  else if Calculator.isComplete text then ⟨closed ++ [text], ""⟩
  else ⟨closed, text⟩

/-- What waits in an open assembly is settled. -/
theorem Open.settle_waiting {assembly : Assembly} (isOpen : assembly.Open) :
    settle assembly.closed assembly.waiting = assembly := by
  obtain ⟨closed, waiting⟩ := assembly
  unfold settle
  rcases isOpen with nothing | ⟨some, incomplete⟩
  · change waiting = "" at nothing
    subst nothing
    exact if_pos rfl
  · change isBlankText waiting = false at some
    change Calculator.isComplete waiting = false at incomplete
    simp [some, incomplete]

/-- Adding a line is settling what waits with the line behind it. -/
theorem Open.add_eq_settle {assembly : Assembly} (isOpen : assembly.Open) (line : String) :
    assembly.add line = settle assembly.closed (assembly.waiting ++ line ++ "\n") := by
  unfold Assembly.add settle
  by_cases dropped : assembly.waiting = "" ∧ isBlankText line = true
  · rw [if_pos dropped, if_pos ((isOpen.isBlankText_push line).mpr dropped), ← dropped.1]
  · rw [if_neg dropped, if_neg fun blank => dropped ((isOpen.isBlankText_push line).mp blank)]

theorem Open.add {assembly : Assembly} (isOpen : assembly.Open) (line : String) :
    (assembly.add line).Open := by
  unfold Assembly.add
  split
  · exact isOpen
  next begun =>
    dsimp only
    split
    · exact .inl rfl
    next incomplete =>
      refine .inr ⟨?_, by simpa using incomplete⟩
      rw [← isOpen.isBlankText_push line] at begun
      simpa using begun

end Assembly

theorem open_assemble (lines : List String) : (assemble lines).Open := by
  induction lines using List.reverseRecOn with
  | nil => exact .inl rfl
  | append_singleton lines line ih =>
      rw [assemble_concat]
      exact ih.add line

/-- Putting lines together loses nothing but blank lines: the texts hold the other lines, each with
a newline, once and in order. -/
theorem join_assemble (lines : List String) :
    ∃ kept : List String, kept.Sublist lines ∧
      kept.filter (!isBlankText ·) = lines.filter (!isBlankText ·) ∧
        String.join (assemble lines).closed ++ (assemble lines).waiting =
          String.join (kept.map (· ++ "\n")) := by
  induction lines using List.reverseRecOn with
  | nil => exact ⟨[], .refl [], rfl, rfl⟩
  | append_singleton lines line ih =>
      obtain ⟨kept, sublist, sameLines, sameText⟩ := ih
      rw [assemble_concat, Assembly.add]
      split
      next dropped =>
        refine ⟨kept, sublist.trans (List.sublist_append_left ..), ?_, sameText⟩
        have passed : [line].filter (!isBlankText ·) = [] := by
          rw [List.filter_cons, dropped.2]
          rfl
        rw [List.filter_append, sameLines, passed, List.append_nil]
      · refine ⟨kept ++ [line], sublist.append (.refl _), ?_, ?_⟩
        · rw [List.filter_append, List.filter_append, sameLines]
        · have added : String.join (assemble lines).closed ++
              ((assemble lines).waiting ++ line ++ "\n") =
                String.join ((kept ++ [line]).map (· ++ "\n")) := by
            rw [List.map_append, String.join_append, ← sameText, List.map_singleton,
              String.join_cons, String.join_nil, String.append_empty]
            simp only [String.append_assoc]
          dsimp only
          split
          · rw [String.join_append, String.join_cons, String.join_nil, String.append_empty,
              String.append_empty]
            exact added
          · exact added

example : assemble ["1 +", "2", "", "3"] = ⟨["1 +\n2\n", "3\n"], ""⟩ := by decide +kernel

/-- The session that an event is about, if it is about what a session reads or evaluates. -/
def Event.session? : Event → Option Nat
  | .took taker _ _ => taker
  | .evaluated evaluator _ _ => evaluator
  | _ => none

theorem Event.session?_of_isPlain {event : Event} (plain : event.isPlain) :
    event.session? = none := by
  cases event <;> first | rfl | cases plain

theorem Event.session?_of_mark {event : Event}
    (mark : event.isPlain ∨ ∃ boundary target level, event = .session boundary target level) :
    event.session? = none := by
  obtain plain | ⟨_, _, _, rfl⟩ := mark
  · exact session?_of_isPlain plain
  · rfl

/-- The line that a session has taken, with the session and where the line came from. -/
def Event.taking? : Event → Option (Option Nat × Origin × String)
  | .took taker origin line => some (taker, origin, line)
  | _ => none

theorem Event.taking?_of_isPlain {event : Event} (plain : event.isPlain) :
    event.taking? = none := by
  cases event <;> first | rfl | cases plain

/-- The lines that a session has taken and no command recognises, in order. -/
def Registry.unrecognised (registry : Registry) (session : Nat) (events : List Event) :
    List String :=
  events.filterMap fun event =>
    match event with
    | .took taker _ line =>
        if taker = some session && !registry.invokes line then some line else none
    | _ => none

/-- The texts that a session has evaluated, in order. -/
def evaluatedIn (session : Nat) (events : List Event) : List String :=
  events.filterMap fun event =>
    match event with
    | .evaluated evaluator source _ => if evaluator = some session then some source else none
    | _ => none

/-- A session has taken a line that is dispatched to a command that may change its buffer. -/
def Registry.EditedIn (registry : Registry) (session : Nat) (events : List Event) : Prop :=
  ∃ origin line, .took (some session) origin line ∈ events ∧ registry.edits line

/-- What a session has evaluated and what waits in it is what its lines are put together to, unless
it has edited its buffer. -/
def Registry.Faithful (registry : Registry) (session : Nat) (events : List Event)
    (pending : String) : Prop :=
  ¬registry.EditedIn session events →
    assemble (registry.unrecognised session events) = ⟨evaluatedIn session events, pending⟩

theorem mem_evaluatedIn {session : Nat} {events : List Event} {source : String} :
    source ∈ evaluatedIn session events ↔
      ∃ result, .evaluated (some session) source result ∈ events := by
  unfold evaluatedIn
  rw [List.mem_filterMap]
  constructor
  · rintro ⟨event, member, told⟩
    cases event with
    | evaluated evaluator text result =>
        simp only [Option.ite_none_right_eq_some, Option.some.injEq] at told
        obtain ⟨rfl, rfl⟩ := told
        exact ⟨result, member⟩
    | _ => cases told
  · rintro ⟨result, member⟩
    exact ⟨_, member, if_pos rfl⟩

namespace Registry

variable {registry : Registry} {session : Nat} {events added : List Event} {pending : String}

theorem unrecognised_append : registry.unrecognised session (events ++ added) =
    registry.unrecognised session events ++ registry.unrecognised session added :=
  List.filterMap_append

theorem evaluatedIn_append :
    evaluatedIn session (events ++ added) =
      evaluatedIn session events ++ evaluatedIn session added :=
  List.filterMap_append

theorem unrecognised_of_silent (silent : ∀ event ∈ added, event.session? ≠ some session) :
    registry.unrecognised session added = [] := by
  refine List.filterMap_eq_nil_iff.mpr ?_
  intro event member
  have other := silent event member
  cases event with
  | took taker _ line =>
      have isOther : taker ≠ some session := other
      simp [isOther]
  | _ => rfl

theorem evaluatedIn_of_silent (silent : ∀ event ∈ added, event.session? ≠ some session) :
    evaluatedIn session added = [] := by
  refine List.filterMap_eq_nil_iff.mpr ?_
  intro event member
  have other := silent event member
  cases event with
  | evaluated evaluator _ _ =>
      have isOther : evaluator ≠ some session := other
      simp [isOther]
  | _ => rfl

/-- A session that has taken no line for a command that edits has not edited its buffer. -/
theorem not_editedIn
    (spared : ∀ taken ∈ events.filterMap Event.taking?, ¬registry.edits taken.2.2) :
    ¬registry.EditedIn session events := by
  rintro ⟨origin, line, member, edits⟩
  exact spared (some session, origin, line) (List.mem_filterMap.mpr ⟨_, member, rfl⟩) edits

theorem EditedIn.append (edited : registry.EditedIn session events) (added : List Event) :
    registry.EditedIn session (events ++ added) := by
  obtain ⟨origin, line, member, edits⟩ := edited
  exact ⟨origin, line, List.mem_append_left _ member, edits⟩

theorem invokes_of_find? {other : Registry} {line : String} (same : other = registry) :
    (other.find? line).isSome = registry.invokes line := by
  rw [same, invokes]

theorem unrecognised_took (origin : Origin) (line : String) :
    registry.unrecognised session [.took (some session) origin line] =
      if registry.invokes line then [] else [line] := by
  cases known : registry.invokes line <;> simp [unrecognised, known]

theorem evaluatedIn_cons (source : String) (result : Except EvalError Value) :
    evaluatedIn session (.evaluated (some session) source result :: added) =
      source :: evaluatedIn session added := by
  simp [evaluatedIn]

namespace Faithful

/-- A session of which nothing has been heard has put nothing together. -/
theorem of_silent (silent : ∀ event ∈ events, event.session? ≠ some session) :
    registry.Faithful session events "" := by
  intro _
  rw [unrecognised_of_silent silent, evaluatedIn_of_silent silent]
  rfl

/-- Events that neither bring an unrecognised line nor evaluate anything do not matter. -/
theorem append (faithful : registry.Faithful session events pending)
    (noLine : registry.unrecognised session added = []) (noText : evaluatedIn session added = []) :
    registry.Faithful session (events ++ added) pending := by
  intro unedited
  rw [unrecognised_append, evaluatedIn_append, noLine, noText, List.append_nil, List.append_nil]
  exact faithful fun edited => unedited (edited.append added)

theorem append_silent (faithful : registry.Faithful session events pending)
    (silent : ∀ event ∈ added, event.session? ≠ some session) :
    registry.Faithful session (events ++ added) pending :=
  faithful.append (unrecognised_of_silent silent) (evaluatedIn_of_silent silent)

end Faithful

end Registry

namespace Engine

variable {registry : Registry} {session : Nat} {events : List Event}

theorem session?_of_running {engine : Engine} {session : Session} {rest : List Session}
    (running : engine.sessions.running = session :: rest) : engine.session? = some session.id := by
  rw [session?, SessionStack.current?, running]
  rfl

/-- Every event is about a session or about none. -/
def About (session : Nat) (events : List Event) : Prop :=
  ∀ event ∈ events, event.session? = none ∨ event.session? = some session

theorem about_of_plain {said : List Event} (plain : ∀ event ∈ said, event.isPlain)
    (session : Nat) : About session said :=
  fun event member => .inl (Event.session?_of_isPlain (plain event member))

theorem silent_of_plain {said : List Event} (plain : ∀ event ∈ said, event.isPlain)
    (session : Nat) : ∀ event ∈ said, event.session? ≠ some session := by
  intro event member
  rw [Event.session?_of_isPlain (plain event member)]
  exact nofun

/-- A line that is heard is all that matters then. -/
theorem Hears.line_spec {before heard : Engine} {origin : Origin} {line : String}
    (hears : before.Hears origin line heard) (current : before.session? = some session)
    (registry : Registry) :
    ∃ added, before.Stays heard added ∧ About session added ∧
      registry.unrecognised session added = (if registry.invokes line then [] else [line]) ∧
        evaluatedIn session added = [] ∧
          (registry.edits line → registry.EditedIn session added) := by
  obtain ⟨asked, stays, plain⟩ := hears.stays
  rw [current] at stays
  have silent := silent_of_plain plain session
  refine ⟨_, stays, ?_, ?_, ?_, ?_⟩
  · intro event member
    rcases List.mem_append.mp member with isAsked | isTaken
    · exact about_of_plain plain session event isAsked
    · rw [List.mem_singleton.mp isTaken]
      exact .inr rfl
  · rw [Registry.unrecognised_append, Registry.unrecognised_of_silent silent,
      Registry.unrecognised_took, List.nil_append]
  · rw [Registry.evaluatedIn_append, Registry.evaluatedIn_of_silent silent]
    rfl
  · intro edits
    exact ⟨origin, line, List.mem_append_right _ (List.mem_singleton_self _), edits⟩

/-- Settling the buffer settles its text behind those that the session has evaluated. -/
theorem settle_spec {engine : Engine} (current : engine.session? = some session)
    (registry : Registry) :
    ∃ added, engine.Stays engine.settle added ∧ About session added ∧
      registry.unrecognised session added = [] ∧
        ∀ closed, Assembly.settle closed engine.desk.buffer.text =
          ⟨closed ++ evaluatedIn session added, engine.settle.desk.buffer.text⟩ := by
  have settles := engine.settles
  generalize engine.settle = after at settles ⊢
  cases settles with
  | forgotten blank =>
      change isBlankText engine.desk.buffer.text = true at blank
      refine ⟨[], ⟨rfl, rfl, rfl, rfl, .refl _⟩, by simp [About], rfl, ?_⟩
      intro closed
      rw [Assembly.settle, if_pos blank, evaluatedIn, List.filterMap_nil, List.append_nil]
      rfl
  | waiting some incomplete =>
      change isBlankText engine.desk.buffer.text = false at some
      refine ⟨[], .refl engine, by simp [About], rfl, ?_⟩
      intro closed
      simp only [Assembly.settle, some, incomplete, evaluatedIn, List.filterMap_nil,
        List.append_nil, Bool.false_eq_true, if_false]
  | evaluated some complete =>
      change isBlankText engine.desk.buffer.text = false at some
      obtain ⟨result, said, stays, plain, emptied⟩ := engine.evaluateBuffer_spec
      rw [current] at stays
      have silent := silent_of_plain plain session
      refine ⟨_, stays, List.forall_mem_cons.mpr ⟨.inr rfl, about_of_plain plain session⟩, ?_, ?_⟩
      · have noLine : registry.unrecognised session said = [] :=
          Registry.unrecognised_of_silent silent
        exact noLine
      · intro closed
        rw [Registry.evaluatedIn_cons, Registry.evaluatedIn_of_silent silent, emptied]
        simp only [Assembly.settle, some, complete, Bool.false_eq_true, if_false, if_true]
        rfl

/-- Every running session is faithful to what waits in it, every other one has been, and no event
is about a session that has not begun. -/
structure Assembled (registry : Registry) (events : List Event) (engine : Engine) : Prop where
  running : ∀ place ∈ engine.waiting, registry.Faithful place.1.id events place.2.text
  all : ∀ session, ∃ pending, registry.Faithful session events pending
  begun : ∀ event ∈ events, ∀ session, event.session? = some session →
    session < engine.sessions.nextId

/-- The engine has gone on, and what it has added to the transcript leaves every session faithful to
what waits in it. -/
def Assembles (registry : Registry) (events : List Event) (before after : Engine) : Prop :=
  ∃ added, before.desk.transcript.Extends after.desk.transcript added ∧
    Assembled registry (events ++ added) after

theorem Assembles.after_extends {before middle after : Engine} {added : List Event}
    (extended : before.desk.transcript.Extends middle.desk.transcript added)
    (continued : Assembles registry (events ++ added) middle after) :
    Assembles registry events before after := by
  obtain ⟨more, extendedOn, assembled⟩ := continued
  rw [List.append_assoc] at assembled
  exact ⟨added ++ more, extended.trans extendedOn, assembled⟩

theorem Assembles.trans {before middle after : Engine}
    (begun : Assembles registry events before middle)
    (continued : ∀ events, Assembled registry events middle →
      Assembles registry events middle after) :
    Assembles registry events before after := by
  obtain ⟨added, extended, assembled⟩ := begun
  exact .after_extends extended (continued _ assembled)

namespace Assembled

variable {before after : Engine} {session : Session} {rest : List Session} {added : List Event}

/-- Going on within the innermost session matters to that session only. -/
theorem of_stays (assembled : Assembled registry events before) (aligned : before.sessions.Aligned)
    (running : before.sessions.running = session :: rest) (stays : before.Stays after added)
    (about : About session.id added)
    (faithful : registry.Faithful session.id (events ++ added) after.desk.buffer.text) :
    Assembled registry (events ++ added) after := by
  -- The sessions around have smaller identities, so nothing that is added is about them.
  have ids := aligned.ids
  rw [running, List.pairwise_cons] at ids
  have otherwise (other : Nat) (different : other ≠ session.id) :
      ∀ event ∈ added, event.session? ≠ some other := by
    intro event member isOther
    rcases about event member with isNone | isOwn
    · rw [isNone] at isOther
      cases isOther
    · rw [isOwn, Option.some.injEq] at isOther
      exact different isOther.symm
  refine ⟨?_, ?_, ?_⟩
  · have sameRunning : after.sessions.running = session :: rest := by rw [stays.sessions, running]
    rw [waiting_eq_cons sameRunning, stays.suspended, List.forall_mem_cons]
    refine ⟨faithful, ?_⟩
    intro place member
    have inRest : place.1 ∈ rest := (List.of_mem_zip member).1
    have wasWaiting : place ∈ before.waiting := by
      rw [waiting_eq_cons running]
      exact List.mem_cons_of_mem _ member
    exact (assembled.running place wasWaiting).append_silent
      (otherwise _ (Nat.ne_of_lt (ids.1 _ inRest)))
  · intro other
    by_cases isOwn : other = session.id
    · exact ⟨_, isOwn ▸ faithful⟩
    · obtain ⟨pending, was⟩ := assembled.all other
      exact ⟨pending, was.append_silent (otherwise other isOwn)⟩
  · rw [stays.sessions]
    intro event member other isOther
    rcases List.mem_append.mp member with old | new
    · exact assembled.begun event old other isOther
    · rcases about event new with isNone | isOwn
      · rw [isNone] at isOther
        cases isOther
      · rw [isOwn, Option.some.injEq] at isOther
        rw [← isOther]
        exact aligned.fresh session (running ▸ List.mem_cons_self)

/-- When sessions begin or end, what waited in them waits on, and nothing waits in a new one. -/
theorem of_silent (assembled : Assembled registry events before)
    (silent : ∀ event ∈ added, event.session? = none)
    (waiting : ∀ place ∈ after.waiting, place ∈ before.waiting ∨
      before.sessions.nextId ≤ place.1.id ∧ place.2 = .empty)
    (ids : before.sessions.nextId ≤ after.sessions.nextId) :
    Assembled registry (events ++ added) after := by
  have aboutNone (session : Nat) : ∀ event ∈ added, event.session? ≠ some session := by
    intro event member
    rw [silent event member]
    exact nofun
  refine ⟨?_, ?_, ?_⟩
  · intro place member
    rcases waiting place member with old | ⟨unused, nothing⟩
    · exact (assembled.running place old).append_silent (aboutNone _)
    · rw [nothing]
      refine (Registry.Faithful.of_silent ?_).append_silent (aboutNone _)
      intro event isOld isOwn
      exact Nat.not_lt_of_ge unused (assembled.begun event isOld _ isOwn)
  · intro session
    obtain ⟨pending, was⟩ := assembled.all session
    exact ⟨pending, was.append_silent (aboutNone session)⟩
  · intro event member session isAbout
    rcases List.mem_append.mp member with old | new
    · exact Nat.lt_of_lt_of_le (assembled.begun event old session isAbout) ids
    · exact absurd isAbout (aboutNone session event new)

theorem of_enters {target : Value} (assembled : Assembled registry events before)
    (enters : before.Enters target after) :
    Assembles registry events before after := by
  obtain ⟨added, extended, marks⟩ := enters.marks
  refine ⟨_, extended, assembled.of_silent ?_ ?_ ?_⟩
  · exact fun event member => Event.session?_of_mark (marks event member)
  · rw [enters.waiting]
    intro place member
    rcases List.mem_cons.mp member with rfl | old
    · exact .inr ⟨Nat.le_refl _, rfl⟩
    · exact .inl old
  · rw [enters.sessions]
    exact Nat.le_succ _

theorem of_leaves (assembled : Assembled registry events before) (nested : before.WellNested)
    (leaves : before.Leaves session after) :
    Assembles registry events before after := by
  obtain ⟨added, extended, marks⟩ := leaves.marks
  refine ⟨_, extended, assembled.of_silent ?_ ?_ ?_⟩
  · exact fun event member => Event.session?_of_mark (marks event member)
  · rw [leaves.waiting nested]
    exact fun place member => .inl (List.mem_of_mem_tail member)
  · rw [leaves.sessions]
    exact Nat.le_refl _

/-- What waits in the innermost session is what its lines are put together to. -/
theorem current (assembled : Assembled registry events before)
    (running : before.sessions.running = session :: rest) :
    registry.Faithful session.id events before.desk.buffer.text := by
  refine assembled.running (session, before.desk.buffer) ?_
  rw [waiting_eq_cons running]
  exact List.mem_cons_self

/-- A command has run, and what waits is the same unless the session has edited it. -/
theorem of_spared (assembled : Assembled registry events before)
    (aligned : before.sessions.Aligned) (running : before.sessions.running = session :: rest)
    (stays : before.StaysWith (·.isPlain) after)
    (spared : ¬registry.EditedIn session.id events → after.desk.buffer = before.desk.buffer) :
    Assembles registry events before after := by
  obtain ⟨added, stays, plain⟩ := stays
  have about := about_of_plain plain session.id
  refine ⟨added, stays.transcript, assembled.of_stays aligned running stays about ?_⟩
  intro unedited
  have wasUnedited : ¬registry.EditedIn session.id events :=
    fun edited => unedited (edited.append added)
  rw [spared wasUnedited]
  exact (assembled.current running).append_silent (silent_of_plain plain _) unedited

theorem of_remarks (assembled : Assembled registry events before)
    (aligned : before.sessions.Aligned) (running : before.sessions.running = session :: rest)
    (remarks : before.Remarks after) :
    Assembles registry events before after :=
  assembled.of_spared aligned running remarks.stays fun _ => remarks.buffer

/-- A line that no command recognises is put to what waits. -/
theorem of_unknown {origin : Origin} {line : String} {heard : Engine}
    (assembled : Assembled registry events before) (aligned : before.sessions.Aligned)
    (running : before.sessions.running = session :: rest)
    (hears : before.Hears origin line heard) (unknown : registry.invokes line = false) :
    Assembles registry events before
      (heard.withBuffer (heard.desk.buffer.push line)).settle := by
  have current := session?_of_running running
  obtain ⟨taken, stays, about, lines, texts, _⟩ := hears.line_spec current registry
  let pushed := heard.withBuffer (heard.desk.buffer.push line)
  have currentPushed : pushed.session? = some session.id := stays.session?.trans current
  obtain ⟨settled, settles, aboutSettled, noLines, result⟩ := settle_spec currentPushed registry
  have staysOn : heard.Stays pushed.settle settled :=
    ⟨settles.registry, settles.sessions, settles.suspended, settles.hooks, settles.transcript⟩
  -- A line that is taken but not in the buffer yet is missing, so both steps are taken together.
  have whole := stays.trans staysOn
  refine ⟨_, whole.transcript, assembled.of_stays aligned running whole ?_ ?_⟩
  · intro event member
    exact (List.mem_append.mp member).elim (about event) (aboutSettled event)
  · intro unedited
    have was := assembled.current running fun edited => unedited (edited.append _)
    have isOpen := open_assemble (registry.unrecognised session.id events)
    rw [unknown, if_neg Bool.false_ne_true] at lines
    rw [Registry.unrecognised_append, Registry.unrecognised_append, lines, noLines,
      List.append_nil, assemble_concat, isOpen.add_eq_settle, was, Registry.evaluatedIn_append,
      Registry.evaluatedIn_append, texts, List.nil_append, ← result, ← hears.buffer]
    rfl

/-- A line that a command recognises is heard without any effect on what waits. -/
theorem of_known {origin : Origin} {line : String} {heard : Engine}
    (assembled : Assembled registry events before) (aligned : before.sessions.Aligned)
    (running : before.sessions.running = session :: rest)
    (hears : before.Hears origin line heard) (known : registry.invokes line = true) :
    ∃ added, before.desk.transcript.Extends heard.desk.transcript added ∧
      Assembled registry (events ++ added) heard ∧
        (registry.edits line → registry.EditedIn session.id (events ++ added)) := by
  have current := session?_of_running running
  obtain ⟨taken, stays, about, lines, texts, edits⟩ := hears.line_spec current registry
  rw [known, if_pos rfl] at lines
  refine ⟨taken, stays.transcript, assembled.of_stays aligned running stays about ?_, ?_⟩
  · rw [hears.buffer]
    exact (assembled.current running).append lines texts
  · intro isEdit
    obtain ⟨origin, line, member, isEdit⟩ := edits isEdit
    exact ⟨origin, line, List.mem_append_right _ member, isEdit⟩

/-- Settling what waits changes nothing about what it is, since it is settled already. -/
theorem of_settle (assembled : Assembled registry events before)
    (aligned : before.sessions.Aligned) (running : before.sessions.running = session :: rest) :
    Assembles registry events before before.settle := by
  have current := session?_of_running running
  obtain ⟨settled, stays, about, noLines, result⟩ := settle_spec current registry
  refine ⟨settled, stays.transcript, assembled.of_stays aligned running stays about ?_⟩
  intro unedited
  have was := assembled.current running fun edited => unedited (edited.append settled)
  have isOpen := open_assemble (registry.unrecognised session.id events)
  rw [Registry.unrecognised_append, noLines, List.append_nil, ← isOpen.settle_waiting, was, result,
    Registry.evaluatedIn_append]

end Assembled

end Engine

namespace Run

open Engine

variable {events : List Event}

theorem assembles_readLine {engine : Engine} (orderly : engine.registry.Orderly)
    (aligned : engine.sessions.Aligned) (some : engine.sessions.running ≠ [])
    (assembled : Assembled engine.registry events engine) :
    Assembles engine.registry events engine (readLine engine).engine := by
  obtain ⟨session, rest, running⟩ := List.exists_cons_of_ne_nil some
  have reads := reads_readLine orderly
  generalize engine.desk.input.delivered? = delivered at reads
  generalize readLine engine = run at reads ⊢
  cases reads with
  | waited remarks => exact assembled.of_remarks aligned running remarks
  | ended remarks => exact assembled.of_remarks aligned running remarks
  | @took _ line heard _ hears takes =>
      have sameRegistry := hears.inside.registry
      have alignedHeard : heard.sessions.Aligned := by rwa [hears.inside.sessions]
      have runningHeard : heard.sessions.running = session :: rest := by
        rwa [hears.inside.sessions]
      cases takes with
      | unknown unknown =>
          refine assembled.of_unknown aligned running hears ?_
          rw [Registry.invokes, ← sameRegistry, unknown]
          rfl
      | @done after known worked buffer =>
          rw [Registry.invokes_of_find? sameRegistry] at known
          rw [sameRegistry] at buffer
          obtain ⟨_, extended, assembledHeard, edited⟩ :=
            assembled.of_known aligned running hears known
          have alignedAfter : after.sessions.Aligned := by rwa [worked.sessions]
          have runningAfter : after.sessions.running = session :: rest := by rwa [worked.sessions]
          have spared := assembledHeard.of_spared alignedHeard runningHeard worked
            fun unedited => buffer fun edits => unedited (edited edits)
          refine .after_extends extended (spared.trans ?_)
          exact fun _ assembledAfter => assembledAfter.of_settle alignedAfter runningAfter
      | refused known worked buffer =>
          rw [Registry.invokes_of_find? sameRegistry] at known
          rw [sameRegistry] at buffer
          obtain ⟨_, extended, assembledHeard, edited⟩ :=
            assembled.of_known aligned running hears known
          refine .after_extends extended ?_
          exact assembledHeard.of_spared alignedHeard runningHeard worked
            fun unedited => buffer (.inr fun edits => unedited (edited edits))
      | left known remarks =>
          rw [Registry.invokes_of_find? sameRegistry] at known
          obtain ⟨_, extended, assembledHeard, _⟩ :=
            assembled.of_known aligned running hears known
          refine .after_extends extended ?_
          exact assembledHeard.of_remarks alignedHeard runningHeard remarks
      | @nested after value known remarks =>
          rw [Registry.invokes_of_find? sameRegistry] at known
          obtain ⟨_, extended, assembledHeard, _⟩ :=
            assembled.of_known aligned running hears known
          have worked := assembledHeard.of_remarks alignedHeard runningHeard remarks
          refine .after_extends extended (worked.trans ?_)
          exact fun _ assembledAfter => assembledAfter.of_enters (after.enters_enter value)

theorem assembles_step {run : Run} (sound : run.Sound)
    (assembled : Assembled run.engine.registry events run.engine) :
    Assembles run.engine.registry events run.engine run.step.engine := by
  obtain ⟨engine, phase⟩ := run
  obtain ⟨orderly, nested, placed⟩ := sound
  cases phase with
  | finished result => exact ⟨[], .refl _, by rwa [List.append_nil]⟩
  | reading => exact assembles_readLine orderly nested.aligned placed assembled
  | unwinding depth =>
      obtain ⟨some, within⟩ := placed
      obtain ⟨session, rest, running⟩ := List.exists_cons_of_ne_nil some
      change Assembles engine.registry events engine (unwind engine depth).engine
      rw [unwind_eq running]
      exact assembled.of_leaves nested (engine.leaves_leave session depth)

end Run

/-! ## What the input delivers -/

/-- The lines that sessions have taken, oldest first. -/
def Transcript.takings (transcript : Transcript) : List (Option Nat × Origin × String) :=
  transcript.told Event.taking?

theorem Transcript.Marks.takings {before after : Transcript} (marks : before.Marks after) :
    after.takings = before.takings := by
  obtain ⟨added, extended, marks⟩ := marks
  refine extended.told_of_none fun event member => ?_
  obtain plain | ⟨_, _, _, rfl⟩ := marks event member
  · exact Event.taking?_of_isPlain plain
  · rfl

/-- The line that the input delivers in a step, with the session that reads then. -/
def Run.delivery? (run : Run) : Option (Option Nat × Origin × String) :=
  match run.phase with
  | .reading => run.engine.desk.input.delivered?.map (Prod.mk run.engine.session?)
  | .unwinding _ | .finished _ => none

namespace Engine

theorem StaysWith.takings {before after : Engine}
    (stays : before.StaysWith (·.taking? = none) after) :
    after.desk.transcript.takings = before.desk.transcript.takings := by
  obtain ⟨added, stayed, none⟩ := stays
  exact stayed.transcript.told_of_none none

theorem StaysWith.takings_of_isPlain {before after : Engine}
    (stays : before.StaysWith (·.isPlain) after) :
    after.desk.transcript.takings = before.desk.transcript.takings :=
  StaysWith.takings (stays.mono fun _ => Event.taking?_of_isPlain)

theorem takings_settle (engine : Engine) :
    engine.settle.desk.transcript.takings = engine.desk.transcript.takings :=
  StaysWith.takings (.settle engine (fun _ => Event.taking?_of_isPlain) fun _ _ _ => rfl)

theorem Hears.takings {before heard : Engine} {origin : Origin} {line : String}
    (hears : before.Hears origin line heard) :
    heard.desk.transcript.takings =
      before.desk.transcript.takings ++ [(before.session?, origin, line)] := by
  obtain ⟨asked, stays, plain⟩ := hears.stays
  have none : asked.filterMap Event.taking? = [] :=
    List.filterMap_eq_nil_iff.mpr fun event member => Event.taking?_of_isPlain (plain event member)
  refine (stays.transcript.told Event.taking?).trans ?_
  rw [List.filterMap_append, none]
  rfl

/-- No further line is taken when one is dispatched. -/
theorem Takes.takings {line : String} {heard : Engine} {run : Run} (takes : Takes line heard run) :
    run.engine.desk.transcript.takings = heard.desk.transcript.takings := by
  cases takes with
  | unknown => exact takings_settle _
  | @done after _ worked => exact (takings_settle after).trans worked.takings_of_isPlain
  | refused _ worked => exact worked.takings_of_isPlain
  | left _ remarks => exact remarks.stays.takings_of_isPlain
  | @nested after value _ remarks =>
      exact (after.enters_enter value).marks.takings.trans remarks.stays.takings_of_isPlain

/-- What is delivered in a step is what is taken in it. -/
theorem Reads.takings {before : Engine} {delivered : Option (Origin × String)} {run : Run}
    (reads : Reads before delivered run) :
    run.engine.desk.transcript.takings =
      before.desk.transcript.takings ++ (delivered.map (Prod.mk before.session?)).toList := by
  cases reads with
  | waited remarks | ended remarks =>
      exact remarks.stays.takings_of_isPlain.trans (List.append_nil _).symm
  | took hears takes => exact takes.takings.trans hears.takings

end Engine

namespace Run

theorem takings_step {run : Run} (orderly : run.engine.registry.Orderly) :
    run.step.engine.desk.transcript.takings =
      run.engine.desk.transcript.takings ++ run.delivery?.toList := by
  obtain ⟨engine, phase⟩ := run
  cases phase with
  | reading => exact (reads_readLine orderly).takings
  | finished result => exact (List.append_nil _).symm
  | unwinding depth =>
      change (unwind engine depth).engine.desk.transcript.takings = _ ++ []
      rw [List.append_nil]
      unfold unwind
      split
      · rfl
      next session _ => exact (engine.leaves_leave session depth).marks.takings

/-- The lines that are taken in a run are those that the input delivers. -/
theorem takings_after {run : Run} (sound : run.Sound) (count : Nat) :
    (run.after count).engine.desk.transcript.takings =
      run.engine.desk.transcript.takings ++
        (List.range count).filterMap fun earlier => (run.after earlier).delivery? := by
  induction count with
  | zero => exact (List.append_nil _).symm
  | succ count ih =>
      have last : [count].filterMap (fun earlier => (run.after earlier).delivery?) =
          (run.after count).delivery?.toList := by
        cases delivered : (run.after count).delivery? <;> simp [delivered]
      rw [after, takings_step (sound.after count).orderly, ih, List.range_succ,
        List.filterMap_append, last, List.append_assoc]

end Run

namespace Engine

theorem assembles_begin {engine : Engine} (idle : engine.Idle) (target : Value) :
    Assembles .builtin [] engine (engine.begin target).engine := by
  have nothing : Assembled .builtin [] engine := by
    refine ⟨?_, ?_, by simp⟩
    · rw [waiting, idle.sessions, List.zip_nil_left]
      simp
    · exact fun session => ⟨"", .of_silent (by simp)⟩
  exact nothing.of_enters (engine.enters_enter target)

/-- Expression assembly loses, duplicates and reorders nothing.  The lines that are taken in a run
are those that the input delivers, each by the session that reads then.  At every moment of a run,
what a session that has not edited its buffer has evaluated so far, and what waits in it while it
runs, is what the unrecognised lines of that session alone are put together to.  Identities keep the
sessions apart: those that are running have different ones, and a session that begins has one that
nothing so far is about. -/
theorem assembly_is_faithful (engine : Engine) (idle : engine.Idle) (target : Value) (count : Nat) :
    let run := (engine.begin target).after count
    ∃ events, engine.desk.transcript.Extends run.engine.desk.transcript events ∧
      (events.filterMap Event.taking? =
        (List.range count).filterMap fun earlier =>
          ((engine.begin target).after earlier).delivery?) ∧
      (∀ place ∈ run.engine.waiting, ¬Registry.builtin.EditedIn place.1.id events →
        assemble (Registry.builtin.unrecognised place.1.id events) =
          ⟨evaluatedIn place.1.id events, place.2.text⟩) ∧
      (∀ session, ¬Registry.builtin.EditedIn session events → ∃ pending,
        assemble (Registry.builtin.unrecognised session events) =
          ⟨evaluatedIn session events, pending⟩) ∧
      (run.engine.sessions.running.Pairwise fun inner outer => outer.id < inner.id) ∧
      ∀ event ∈ events, ∀ session, event.session? = some session →
        session < run.engine.sessions.nextId := by
  have begun : (engine.begin target).Sound :=
    Run.sound_begin idle.orderly idle.wellNested target
  have registry (count : Nat) :
      ((engine.begin target).after count).engine.registry = .builtin := by
    induction count with
    | zero => exact idle.builtin
    | succ count ih => exact (begun.after count).registry_step.trans ih
  have assembles : Assembles .builtin [] engine ((engine.begin target).after count).engine := by
    induction count with
    | zero => exact assembles_begin idle target
    | succ count ih =>
        refine ih.trans fun events assembled => ?_
        have stepped := Run.assembles_step (begun.after count) (registry count ▸ assembled)
        rwa [registry count] at stepped
  obtain ⟨events, extended, assembled⟩ := assembles
  have delivered : events.filterMap Event.taking? =
      (List.range count).filterMap fun earlier =>
        ((engine.begin target).after earlier).delivery? := by
    have entered : (engine.begin target).engine.desk.transcript.takings =
        engine.desk.transcript.takings := (engine.enters_enter target).marks.takings
    have taken := Run.takings_after begun count
    rw [entered] at taken
    exact List.append_cancel_left ((extended.told Event.taking?).symm.trans taken)
  refine ⟨events, extended, delivered, assembled.running, ?_,
    (begun.after count).nested.aligned.ids, assembled.begun⟩
  intro session unedited
  obtain ⟨pending, faithful⟩ := assembled.all session
  exact ⟨pending, faithful unedited⟩

/-- A console in which a command is given amid an expression, and then a session begins in which
another expression is left unfinished. -/
def interleaved : Engine := onScript ["1 +", "show-input", "cd 2", "3 *", "exit", "4"]

theorem told_interleaved :
    let run := (interleaved.begin .main).after 7
    let events := run.engine.desk.transcript.events.reverse
    ((List.range 7).filterMap fun earlier => ((interleaved.begin .main).after earlier).delivery?) =
        [(some 0, .interactive, "1 +"), (some 0, .interactive, "show-input"),
          (some 0, .interactive, "cd 2"), (some 1, .interactive, "3 *"),
          (some 1, .interactive, "exit"), (some 0, .interactive, "4")] ∧
      run.engine.waiting.map (fun place => (place.1.id, place.2)) = [(0, .empty)] ∧
      Registry.builtin.unrecognised 0 events = ["1 +", "4"] ∧
      evaluatedIn 0 events = ["1 +\n4\n"] ∧
      Registry.builtin.unrecognised 1 events = ["3 *"] ∧
      evaluatedIn 1 events = [] ∧
      ["1 +", "show-input", "cd 2", "3 *", "exit", "4"].all fun line =>
        !(Registry.builtin.find? line).any fun found => found.1.name ∈ editing := by
  simp only [interleaved, onScript, Registry.builtin, Commands.registerBuffering,
    Commands.registerNesting, Commands.registerPattern_amend, Commands.ofSimplePattern_percent,
    Commands.registerPattern_cd]
  decide +kernel

/-- The command leaves the expression alone, and so does what the session inside is given. -/
theorem assembly_around_a_nested_session :
    ∃ events, interleaved.desk.transcript.Extends
        ((interleaved.begin .main).after 7).engine.desk.transcript events ∧
      events.filterMap Event.taking? =
        [(some 0, .interactive, "1 +"), (some 0, .interactive, "show-input"),
          (some 0, .interactive, "cd 2"), (some 1, .interactive, "3 *"),
          (some 1, .interactive, "exit"), (some 0, .interactive, "4")] ∧
      evaluatedIn 0 events = ["1 +\n4\n"] ∧ assemble ["1 +", "4"] = ⟨["1 +\n4\n"], ""⟩ ∧
      evaluatedIn 1 events = [] ∧ ∃ pending, assemble ["3 *"] = ⟨[], pending⟩ := by
  obtain ⟨events, extended, taken, running, every, _⟩ :=
    assembly_is_faithful interleaved (idle_onScript _) .main 7
  obtain ⟨delivered, waits, lines, texts, linesInside, textsInside, spared⟩ := told_interleaved
  have added :
      ((interleaved.begin .main).after 7).engine.desk.transcript.events.reverse = events := by
    rw [extended.events, List.reverse_append, List.reverse_reverse]
    rfl
  rw [added] at lines texts linesInside textsInside
  rw [delivered] at taken
  have unedited (session : Nat) : ¬Registry.builtin.EditedIn session events := by
    refine Registry.not_editedIn ?_
    rw [taken]
    rintro delivery member ⟨command, recognized, found, isEdit⟩
    have inScript := List.mem_map_of_mem (f := fun delivery => delivery.2.2) member
    have other := List.all_eq_true.mp spared _ inScript
    rw [found] at other
    simp [isEdit] at other
  refine ⟨events, extended, taken, texts, ?_, textsInside, ?_⟩
  · obtain ⟨place, only, same⟩ := List.map_eq_singleton_iff.mp waits
    have faithful := running place (by rw [only]; exact List.mem_singleton_self place) (unedited _)
    obtain ⟨isOuter, nothing⟩ := Prod.mk.inj same
    rwa [isOuter, nothing, lines, texts] at faithful
  · obtain ⟨pending, faithful⟩ := every 1 (unedited 1)
    rw [linesInside, textsInside] at faithful
    exact ⟨pending, faithful⟩

end Engine

end Console
