import Console.CommandLine
import Console.Proofs.Engine.Nesting
import Console.Proofs.Engine.Taking
import Console.Proofs.Text.Utf8

/-!
# Single lines

A line of the history is a single one, in which no newline is left.  Those that are typed are,
whether they come from a script or as bytes, and so are those of a history file.
-/

namespace Console

namespace Utf8

/-- In a piece, only the last byte can be a newline. -/
theorem exists_of_mem_pieces {bytes piece : Bytes} (member : piece ∈ pieces bytes) :
    ∃ front, 0x0A ∉ front ∧ (piece = front ∨ piece = front ++ [0x0A]) := by
  induction bytes generalizing piece with
  | nil => cases member
  | cons byte rest ih =>
      by_cases newline : byte = 0x0A
      · rw [pieces, if_pos newline, List.mem_cons] at member
        rcases member with rfl | member
        · exact ⟨[], List.not_mem_nil, .inr (newline ▸ rfl)⟩
        · exact ih member
      · have grown {front : Bytes} (whole : 0x0A ∉ front) : 0x0A ∉ byte :: front :=
          List.not_mem_cons_of_ne_of_not_mem (Ne.symm newline) whole
        rw [pieces, if_neg newline] at member
        cases cut : pieces rest with
        | nil =>
            rw [cut, List.mem_singleton] at member
            exact ⟨[byte], grown List.not_mem_nil, .inl member⟩
        | cons first more =>
            rw [cut, List.mem_cons] at member
            rcases member with rfl | member
            · obtain ⟨front, whole, here⟩ := ih (cut ▸ List.mem_cons_self)
              refine ⟨byte :: front, grown whole, here.imp ?_ ?_⟩
              · exact congrArg _
              · exact congrArg _
            · exact ih (cut ▸ List.mem_cons_of_mem _ member)

theorem scan_of_decode? {bytes : Bytes} {text : List Char} (decoded : decode? bytes = some text) :
    scan bytes = text.map some := by
  unfold decode? at decoded
  generalize scan bytes = stretches at decoded ⊢
  induction stretches generalizing text with
  | nil =>
      cases decoded
      rfl
  | cons stretch rest ih =>
      rw [List.mapM_cons] at decoded
      obtain ⟨c, isChar, behind⟩ := Option.bind_eq_some_iff.mp decoded
      obtain ⟨others, decodedRest, same⟩ := Option.bind_eq_some_iff.mp behind
      cases same
      rw [List.map_cons, ← ih decodedRest]
      exact congrArg (· :: rest) isChar

theorem not_mem_of_scan {bytes : Bytes} {text : List Char} (scanned : scan bytes = text.map some)
    (whole : 0x0A ∉ bytes) : '\n' ∉ text := by
  intro member
  have read : some '\n' ∈ scan bytes := scanned ▸ List.mem_map_of_mem member
  exact whole (newline_mem_of_mem_scanFrom regular_start read)

end Utf8

/-- All lines that a source answers with are single ones. -/
def Source.Lined (source : Source) : Prop :=
  ∀ answer ∈ source, ∀ line, answer.line? = some line → '\n' ∉ line.toList

namespace Source

theorem lined_ofScript (text : String) : (ofScript text).Lined := by
  intro answer member line takes
  obtain ⟨piece, isLine, rfl⟩ := List.mem_map.mp member
  cases takes
  exact not_mem_withoutFinalBreaks (not_mem_of_mem_linesOf isLine)

theorem lined_ofBytes (bytes : Utf8.Bytes) : (ofBytes bytes).Lined := by
  intro answer member line takes
  obtain ⟨piece, isPiece, rfl⟩ := List.mem_map.mp member
  cases read : Utf8.toText? piece with
  | none =>
      rw [read] at takes
      cases takes
  | some text =>
      rw [read] at takes
      cases takes
      obtain ⟨characters, decoded, rfl⟩ := Option.map_eq_some_iff.mp read
      have scanned := Utf8.scan_of_decode? decoded
      obtain ⟨front, whole, rfl | rfl⟩ := Utf8.exists_of_mem_pieces isPiece
      · apply not_mem_withoutFinalBreaks
        rw [String.toList_ofList]
        exact Utf8.not_mem_of_scan scanned whole
      · have written : ([0x0A] : Utf8.Bytes) = Utf8.encode ['\n'] := rfl
        rw [written, Utf8.scan_append_encode] at scanned
        obtain ⟨before, last, rfl, scannedFront, isNewline⟩ :=
          List.map_eq_append_iff.mp scanned.symm
        obtain rfl : last = ['\n'] := by simpa using isNewline
        rw [withoutFinalBreaks, String.toList_ofList, String.toList_ofList,
          Text.trimEndWhere_concat rfl]
        exact mt Text.mem_of_mem_trimEndWhere (Utf8.not_mem_of_scan scannedFront.symm whole)

end Source

namespace History

/-- The lines of a history file are single ones. -/
theorem single_load {history : History}
    (single : ∀ line ∈ history.entries, '\n' ∉ line.toList) (path : String) (storage : Storage) :
    ∀ line ∈ (history.load path storage).2.1.entries, '\n' ∉ line.toList := by
  unfold History.load
  obtain ⟨outcome, after⟩ := storage.read (.path path)
  cases outcome with
  | ok bytes =>
      intro line member
      rcases List.mem_append.mp member with earlier | loaded
      · exact single line earlier
      · exact not_mem_of_mem_linesOf loaded
  | error cause => cases cause <;> exact single

end History

namespace Engine

/-- All lines of the history are single ones, and so are all that can be typed. -/
structure Lined (engine : Engine) : Prop where
  history : ∀ line ∈ engine.desk.history.entries, '\n' ∉ line.toList
  base : engine.desk.input.base.Lined

theorem Lined.loadHistory {engine : Engine} (lined : engine.Lined) : engine.loadHistory.Lined := by
  unfold Engine.loadHistory
  split
  next path _ _ =>
    have single := History.single_load lined.history path engine.desk.storage
    generalize engine.desk.history.load path engine.desk.storage = loaded at single ⊢
    obtain ⟨outcome, history, storage⟩ := loaded
    cases outcome with
    | ok found => cases found <;> exact ⟨single, lined.base⟩
    | error cause => exact ⟨single, lined.base⟩
  · exact lined

/-- A console that is given single lines. -/
theorem lined_onScript {lines : List String} (single : ∀ line ∈ lines, '\n' ∉ line.toList) :
    (onScript lines).Lined := by
  refine ⟨nofun, ?_⟩
  intro answer member line takes
  obtain ⟨typed, among, rfl⟩ := List.mem_map.mp member
  cases takes
  exact not_mem_withoutFinalBreaks (single typed among)

end Engine

namespace CommandLine

variable {host : Host} {given : Flags.Given} {input : Utf8.Bytes} {before : Storage}
  {source : Source}

theorem lined_of_loadSource (loaded : (loadSource given input before).1 = .ok source) :
    source.Lined := by
  unfold loadSource at loaded
  cases script : given.text? "SCRIPT" with
  | none =>
      rw [script] at loaded
      cases loaded
      exact Source.lined_ofBytes input
  | some path =>
      rw [script] at loaded
      dsimp only at loaded
      generalize before.readText (.path path) = read at loaded
      obtain ⟨outcome, after⟩ := read
      cases outcome with
      | ok text =>
          cases loaded
          exact Source.lined_ofScript text
      | error cause => cases loaded

/-- Whatever is read, and whatever is in its history file, the console that the program starts is
given single lines. -/
theorem lined_engineOf (loaded : (loadSource given input before).1 = .ok source) (config : Config)
    (environment : Environment) (transcript : Transcript) (storage : Storage) :
    (engineOf host config environment source transcript storage).loadHistory.Lined := by
  apply Engine.Lined.loadHistory
  have lined := lined_of_loadSource loaded
  unfold engineOf Engine.configured
  cases config.editor with
  | none => exact ⟨nofun, lined⟩
  | some command => exact ⟨nofun, lined⟩

end CommandLine

end Console
