import Parlor.Proofs.Layout.Painting
import Parlor.Proofs.Layout.Wrapping
import Parlor.Proofs.Session.Readings

namespace Parlor.Session

def answers (help : List HelpEntry) (world : World) :
    List (Option String) → List (Option (Except Fault String))
  | [] => []
  | none :: lines => none :: answers help world lines
  | some text :: lines =>
    let turn := world.answer help text
    some turn.reply :: answers help turn.world lines

/-- What is shown for an answer. Only the text of a success is wrapped. -/
inductive Shows (console : Console) : Option (Except Fault String) → String → Prop where
  | success {text painted : String}
      (wraps : Layout.Wraps console.width text (Layout.wrap console.width text))
      (paints : Layout.Paints console.coloured "\u001b[38;2;102;208;250m"
        (Layout.wrap console.width text) painted) :
      Shows console (some (.ok text)) (painted ++ "\n")
  | unknownExit {direction room painted : String}
      (paints : Layout.Paints console.coloured "\u001b[38;2;230;30;30m"
        ("Which way is '" ++ direction ++ "'? There's no exit like that from the " ++ room ++ ".")
        painted) :
      Shows console (some (.error (.unknownExit direction room))) (painted ++ "\n")
  | roomNotFound {room painted : String}
      (paints : Layout.Paints console.coloured "\u001b[38;2;230;30;30m"
        ("room '" ++ room ++ "' not found in the room graph") painted) :
      Shows console (some (.error (.roomNotFound room))) (painted ++ "\n")
  | unreadable {painted : String}
      (paints : Layout.Paints console.coloured "\u001b[38;2;230;30;30m"
        "Failed to read input. Try again." painted) :
      Shows console none (painted ++ "\n")

theorem paints_error (coloured : Bool) (text : String) :
    Layout.Paints coloured "\u001b[38;2;230;30;30m" text (Style.error.apply coloured text) :=
  Layout.paints_apply _ _ _ _ (by decide +kernel)

theorem paints_prompt (console : Console) :
    Layout.Paints console.coloured "\u001b[1;38;2;220;180;40m" "> " console.prompt :=
  Layout.paints_apply _ _ _ _ (by decide +kernel)

theorem shows_reply (console : Console) (reply : Except Fault String) :
    Shows console (some reply) (console.reply reply) := by
  cases reply with
  | ok text =>
    exact .success (Layout.wraps_wrap console.width text)
      (Layout.paints_apply _ _ _ _ (by decide +kernel))
  | error fault =>
    cases fault with
    | unknownExit direction room => exact .unknownExit (paints_error console.coloured _)
    | roomNotFound room => exact .roomNotFound (paints_error console.coloured _)

theorem shows_unreadable (console : Console) : Shows console none console.unreadable :=
  .unreadable (paints_error console.coloured _)

variable {console : Console} {help : List HelpEntry}

structure Reading.IsPlain (reading : Reading) : Prop where
  prompted : reading.prompted = true
  kept : reading.outcome ≠ .interrupted

theorem Outcome.line?_ofSaid (line : Option String) : (ofSaid line).line? = line := by
  cases line <;> rfl

theorem isPlain_of_mem_plainReadings {bytes : List UInt8} {reading : Reading}
    (member : reading ∈ plainReadings bytes) : reading.IsPlain := by
  rw [plainReadings, List.mem_append, List.mem_map, List.mem_singleton] at member
  rcases member with ⟨line, -, rfl⟩ | rfl
  · refine ⟨rfl, fun same => ?_⟩
    cases found : said line with
    | none => simp [found, Outcome.ofSaid] at same
    | some text => simp [found, Outcome.ofSaid] at same
  · exact ⟨rfl, by simp⟩

theorem mem_of_mem_takenReadings {reading : Reading} {readings : List Reading}
    (member : reading ∈ takenReadings readings) : reading ∈ readings := by
  induction readings with
  | nil => cases member
  | cons first later ih =>
    rw [takenReadings, List.mem_cons] at member
    rcases member with rfl | member
    · exact List.mem_cons_self
    · split at member
      · cases member
      · exact List.mem_cons_of_mem first (ih member)

theorem map_line?_takenReadings (bytes : List UInt8) :
    (takenReadings (plainReadings bytes)).map (·.outcome.line?) =
      takenLines ((cutLines bytes).map said) := by
  rw [plainReadings]
  induction cutLines bytes with
  | nil => rfl
  | cons line lines ih =>
    rw [List.map_cons, List.map_cons, List.cons_append, takenReadings, takenLines_cons,
      Outcome.line?_ofSaid, List.map_cons, Outcome.line?_ofSaid]
    split
    · rfl
    · rw [ih]

theorem takenReadings_append {readings : List Reading}
    (quits : ∃ reading ∈ readings, Quits reading.outcome.line? = true) (others : List Reading) :
    takenReadings (readings ++ others) = takenReadings readings := by
  induction readings with
  | nil => simp at quits
  | cons reading later ih =>
    rw [List.cons_append, takenReadings, takenReadings]
    cases now : Quits reading.outcome.line? with
    | true => rfl
    | false =>
      have after : ∃ reading ∈ later, Quits reading.outcome.line? = true := by
        simpa [now] using quits
      rw [ih after]

theorem takenReadings_plainReadings {head : List UInt8} (ends : head.getLast? = some 10)
    (quits : ∃ line ∈ cutLines head, Quits (said line) = true) (tail : List UInt8) :
    takenReadings (plainReadings (head ++ tail)) =
      takenReadings ((cutLines head).map fun line => ⟨true, .ofSaid (said line)⟩) := by
  rw [plainReadings, cutLines_append ends, List.map_append, List.append_assoc]
  apply takenReadings_append
  obtain ⟨line, member, quits⟩ := quits
  exact ⟨_, List.mem_map_of_mem member, by rwa [Outcome.line?_ofSaid]⟩

def Tells (console : Console) (answers : List (Option (Except Fault String)))
    (exchanges : List Exchange) : Prop :=
  ∃ shown, List.Forall₂ (Shows console) answers shown ∧
    console.output exchanges = String.join (shown.map (console.prompt ++ ·))

theorem Tells.cons {answer : Option (Except Fault String)}
    {answers : List (Option (Except Fault String))} {printed : String}
    {exchanges : List Exchange} (shows : Shows console answer printed)
    (tells : Tells console answers exchanges) :
    Tells console (answer :: answers) (⟨true, printed⟩ :: exchanges) := by
  obtain ⟨shown, later, spelled⟩ := tells
  refine ⟨printed :: shown, .cons shows later, ?_⟩
  rw [List.map_cons, String.join_cons, ← spelled, Console.output, List.map_cons, String.join_cons]
  rfl

theorem tells_printedFor (world : World) {readings : List Reading}
    (plain : ∀ reading ∈ readings, reading.IsPlain) :
    Tells console (answers help world (readings.map (·.outcome.line?)))
      (printedFor console help world readings) := by
  induction readings generalizing world with
  | nil => exact ⟨[], .nil, rfl⟩
  | cons reading later ih =>
    obtain ⟨here, rest⟩ := List.forall_mem_cons.1 plain
    obtain ⟨prompted, outcome⟩ := reading
    obtain rfl : prompted = true := here.prompted
    cases outcome with
    | line text => exact .cons (shows_reply console _) (ih (world.answer help text).world rest)
    | endOfInput =>
      -- The end of the input is answered like a line.
      exact .cons (shows_reply console _) (ih (world.answer help "quit").world rest)
    | interrupted => exact absurd rfl here.kept
    | unreadable => exact .cons (shows_unreadable console) (ih world rest)

/-- A session over bytes shows the answers to the lines that are taken, each behind one sign that a
line is awaited, and ends in the world that has answered those of them that are text. What comes
behind a line that quits does not matter. -/
theorem play_ofBytes (console : Console) (help : List HelpEntry) (world : World)
    (bytes : List UInt8) :
    (∃ sign shown, Layout.Paints console.coloured "\u001b[1;38;2;220;180;40m" "> " sign ∧
        List.Forall₂ (Shows console)
          (answers help world (takenLines ((cutLines bytes).map said))) shown ∧
        console.output (play console help world (.ofBytes bytes)).1 =
          String.join (shown.map (sign ++ ·))) ∧
      (play console help world (.ofBytes bytes)).2 =
        world.after help ((takenLines ((cutLines bytes).map said)).filterMap id) ∧
      ∀ head tail others, bytes = head ++ tail → head.getLast? = some 10 →
        (∃ line ∈ cutLines head, Quits (said line) = true) →
        play console help world (.ofBytes (head ++ others)) =
          play console help world (.ofBytes bytes) := by
  refine ⟨?_, ?_, ?_⟩
  · obtain ⟨shown, shows, spelled⟩ := tells_printedFor world fun reading member =>
      isPlain_of_mem_plainReadings (mem_of_mem_takenReadings member)
    rw [map_line?_takenReadings] at shows
    refine ⟨console.prompt, shown, paints_prompt console, shows, ?_⟩
    rw [plays_plainReadings bytes world, ← spelled]
  · rw [plays_plainReadings bytes world, ← map_line?_takenReadings, List.filterMap_map]
    rfl
  · rintro head tail others rfl ends quits
    rw [plays_plainReadings _ world, plays_plainReadings _ world,
      takenReadings_plainReadings ends quits, takenReadings_plainReadings ends quits]

def quittingBytes : List UInt8 := Text.encode "look\r\nQUIT \n"

theorem play_ofBytes_quitting :
    quittingBytes.getLast? = some 10 ∧
      (∃ line ∈ cutLines quittingBytes, Quits (said line) = true) ∧
      play ⟨false, 80⟩ HelpEntry.builtIn (.start [.new "cave" "A dark cave."] "cave")
          (.ofBytes (quittingBytes ++ Text.encode "take torch")) =
        play ⟨false, 80⟩ HelpEntry.builtIn (.start [.new "cave" "A dark cave."] "cave")
          (.ofBytes (quittingBytes ++ [])) := by
  have ends : quittingBytes.getLast? = some 10 := by decide +kernel
  have cut : (cutLines quittingBytes).map said = [some "look", some "QUIT "] := by decide +kernel
  have quits : ∃ line ∈ cutLines quittingBytes, Quits (said line) = true := by
    obtain ⟨line, member, spoken⟩ := List.mem_map.1 (show some "QUIT " ∈ _ by rw [cut]; simp)
    exact ⟨line, member, by rw [spoken]; decide⟩
  exact ⟨ends, quits, (play_ofBytes _ _ _ (quittingBytes ++ [])).2.2 _ _ _ rfl ends quits⟩

end Parlor.Session
