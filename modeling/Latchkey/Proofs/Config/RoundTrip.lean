import Latchkey.Config.File
import Latchkey.Proofs.Toml.Sheet

/-!
The settings are written as a document of settings in two groups behind the settings of no group.
`reload_written`: read from that file, they are the same, or refused for the flaw that they had.
-/

namespace Latchkey.Config

open Toml

variable {c : Config}

/-- The settings as a document of settings in groups; a log file that is not set is left out. -/
def sheet (c : Config) : Sheet where
  settings :=
    .ofText "log_level" c.logLevel.name :: (c.logFile.toList.map (Setting.ofText "log_file") ++
      [.ofFlag "verbose" c.verbose, .ofText "default_marker" c.marker])
  groups :=
    [⟨"rate_limit", [.ofText "prefix" c.limiterSpace]⟩,
      ⟨"perf", [.ofText "prefix" c.breakerSpace, .ofNumber "trace_size" c.traceSize,
        .ofNumber "ttl_secs" c.ttlSeconds]⟩]

theorem toText_eq (c : Config) : c.toText = String.ofList c.sheet.text := by
  obtain ⟨logLevel, logFile, verbose, marker, limiterSpace, breakerSpace, size, seconds⟩ := c
  unfold toText
  apply congrArg
  simp only [sheet, Sheet.text, Group.text, List.flatMap_cons, List.flatMap_nil,
    List.flatMap_append, List.append_nil, List.append_assoc]
  cases logFile with
  | none => rfl
  | some path =>
    simp only [Option.toList_some, List.map_cons, List.map_nil, List.flatMap_cons,
      List.flatMap_nil, List.append_nil]
    rfl

/-- The texts among the settings. -/
def texts (c : Config) : List String :=
  c.logFile.toList ++ [c.marker, c.limiterSpace, c.breakerSpace]

theorem simple_name (level : Level) : Simple level.name := by
  cases level <;> decide

theorem proper_sheet (simple : ∀ text ∈ c.texts, Simple text)
    (size : c.traceSize < Word.unsignedEnd) (seconds : c.ttlSeconds < Word.unsignedEnd) :
    c.sheet.Proper := by
  have logFile : ∀ path ∈ c.logFile.toList, Simple path :=
    fun path file => simple path (List.mem_append_left _ file)
  have marker : Simple c.marker := simple _ (by simp [texts])
  have limiterSpace : Simple c.limiterSpace := simple _ (by simp [texts])
  have breakerSpace : Simple c.breakerSpace := simple _ (by simp [texts])
  refine ⟨?_, ?_, ?_⟩
  · intro s among
    simp only [sheet, List.mem_cons, List.mem_append, List.mem_map, List.not_mem_nil,
      or_false] at among
    rcases among with rfl | ⟨path, file, rfl⟩ | rfl | rfl
    · exact .ofText (by decide) (simple_name c.logLevel)
    · exact .ofText (by decide) (logFile path file)
    · exact .ofFlag (by decide) c.verbose
    · exact .ofText (by decide) marker
  · intro g among
    simp only [sheet, List.mem_cons, List.not_mem_nil, or_false] at among
    rcases among with rfl | rfl
    · refine ⟨(by decide : Bare "rate_limit"), ?_, by simp⟩
      intro s among
      rw [List.mem_singleton.mp among]
      exact .ofText (by decide) limiterSpace
    · refine ⟨(by decide : Bare "perf"), ?_, by simp [Setting.ofText, Setting.ofNumber]⟩
      intro s among
      simp only [List.mem_cons, List.not_mem_nil, or_false] at among
      rcases among with rfl | rfl | rfl
      · exact .ofText (by decide) breakerSpace
      · exact .ofNumber (by decide) size
      · exact .ofNumber (by decide) seconds
  · simp only [sheet]
    cases c.logFile <;> simp [Setting.ofText, Setting.ofFlag]

theorem read?_of_found {α : Type} {kind : TableKind} {entries : Entries} {name : String}
    {v : Value} (found : entries.find? name = some v) (place : Nat) (initial : α)
    (ofValue : Value → Option α) :
    read? (.table kind entries) place name initial ofValue = ofValue v := by
  simp only [read?, setting?, found]

theorem read?_of_absent {α : Type} {kind : TableKind} {entries : Entries} {name : String}
    (absent : entries.find? name = none) (place : Nat) (initial : α)
    (ofValue : Value → Option α) :
    read? (.table kind entries) place name initial ofValue = some initial := by
  simp only [read?, setting?, absent]

theorem numberOf?_int {n : Nat} (fits : n < Word.unsignedEnd) :
    numberOf? (.int n) = some n := by
  have held : 0 ≤ (n : Int) ∧ (n : Int) < Word.unsignedEnd := by omega
  rw [numberOf?, if_pos held, Int.toNat_natCast]

theorem levelOf?_name (level : Level) : levelOf? (.text level.name) = some level := by
  cases level <;> decide

theorem limiterSpaceOf?_group (space : String) :
    limiterSpaceOf? (.table .stated [("prefix", .text space)]) = some space := by
  have known : othersUsable ["prefix"] (.table .stated [("prefix", .text space)]) = true := by
    simp [othersUsable]
  have found : Entries.find? "prefix" [("prefix", .text space)] = some (.text space) := rfl
  rw [limiterSpaceOf?, known, read?_of_found found]
  rfl

theorem breakerOf?_group (space : String) {size seconds : Nat}
    (size_fits : size < Word.unsignedEnd) (seconds_fits : seconds < Word.unsignedEnd) :
    breakerOf? (.table .stated
      [("prefix", .text space), ("trace_size", .int size), ("ttl_secs", .int seconds)]) =
        some (space, size, seconds) := by
  let entries : Entries :=
    [("prefix", .text space), ("trace_size", .int size), ("ttl_secs", .int seconds)]
  have known :
      othersUsable ["prefix", "trace_size", "ttl_secs"] (.table .stated entries) = true := by
    simp [othersUsable, entries]
  have first : entries.find? "prefix" = some (.text space) := rfl
  have second : entries.find? "trace_size" = some (.int size) := rfl
  have third : entries.find? "ttl_secs" = some (.int seconds) := rfl
  rw [breakerOf?, known, read?_of_found first, read?_of_found second, read?_of_found third,
    numberOf?_int size_fits, numberOf?_int seconds_fits]
  rfl

/-- What stands under each name in the table of the settings. -/
theorem find?_sheet (c : Config) :
    Entries.find? "log_level" c.sheet.entries = some (.text c.logLevel.name) ∧
    Entries.find? "log_file" c.sheet.entries = c.logFile.map .text ∧
    Entries.find? "verbose" c.sheet.entries = some (.bool c.verbose) ∧
    Entries.find? "default_marker" c.sheet.entries = some (.text c.marker) ∧
    Entries.find? "rate_limit" c.sheet.entries =
      some (.table .stated [("prefix", .text c.limiterSpace)]) ∧
    Entries.find? "perf" c.sheet.entries =
      some (.table .stated [("prefix", .text c.breakerSpace), ("trace_size", .int c.traceSize),
        ("ttl_secs", .int c.ttlSeconds)]) := by
  simp only [sheet, Sheet.entries]
  cases c.logFile <;> exact ⟨rfl, rfl, rfl, rfl, rfl, rfl⟩

theorem ofEntries?_sheet (size : c.traceSize < Word.unsignedEnd)
    (seconds : c.ttlSeconds < Word.unsignedEnd) : ofEntries? c.sheet.entries = some c := by
  obtain ⟨level, file, verbose, marker, limiter, breaker⟩ := find?_sheet c
  have known : othersUsable
      ["log_level", "log_file", "verbose", "default_marker", "rate_limit", "perf"]
      (.table .stated c.sheet.entries) = true := by
    simp only [sheet, Sheet.entries, othersUsable]
    cases c.logFile <;> rfl
  have logFile : read? (.table .stated c.sheet.entries) 1 "log_file" (default : Config).logFile
      (fun v => (textOf? v).map some) = some c.logFile := by
    cases set : c.logFile with
    | none => exact read?_of_absent (by rw [file, set]; rfl) _ _ _
    | some path => exact read?_of_found (by rw [file, set]; rfl) _ _ _
  unfold ofEntries?
  dsimp only
  rw [known, read?_of_found level, logFile, read?_of_found verbose, read?_of_found marker,
    read?_of_found limiter, read?_of_found breaker, levelOf?_name, limiterSpaceOf?_group,
    breakerOf?_group c.breakerSpace size seconds]
  rfl

theorem ofText_toText (simple : ∀ text ∈ c.texts, Simple text)
    (size : c.traceSize < Word.unsignedEnd) (seconds : c.ttlSeconds < Word.unsignedEnd) :
    ofText c.toText = c.flaw?.elim (.ok c) fun flaw => .error (.config flaw) := by
  have read := Sheet.parse?_text (proper_sheet simple size seconds)
  rw [toText_eq, ofText, String.toList_ofList, read, Option.bind_some,
    ofEntries?_sheet size seconds]
  dsimp only
  cases c.flaw? <;> rfl

theorem ofBytes_toUTF8 (document : String) :
    ofBytes document.toUTF8.data.toList = ofText document := by
  have decoded : String.fromUTF8? (ByteArray.mk document.toUTF8.data) = some document :=
    dif_pos document.isValidUTF8
  rw [ofBytes, Array.toArray_toList, decoded]

/-- **Settings come back from a file as they were.** There is a file for any settings. If no text
among them has a control character or a single quote and the numbers are below `2 ^ 63`, reading it
gives the same settings if nothing is wrong with them, and tells what is wrong otherwise. -/
theorem reload_written (simple : ∀ text ∈ c.texts, Simple text)
    (size : c.traceSize < Word.signedEnd) (seconds : c.ttlSeconds < Word.signedEnd) :
    (c.flaw? = none → ofBytes c.toText.toUTF8.data.toList = .ok c) ∧
      ∀ flaw, c.flaw? = some flaw →
        ofBytes c.toText.toUTF8.data.toList = .error (.config flaw) := by
  have wider : Word.signedEnd < Word.unsignedEnd := by decide
  have read := ofText_toText simple (size.trans wider) (seconds.trans wider)
  rw [ofBytes_toUTF8, read]
  constructor
  · intro sound
    rw [sound, Option.elim_none]
  · intro flaw wrong
    rw [wrong, Option.elim_some]

/-- A text for which the other quotes are taken, one in no need of that, an empty one, and the
largest number; and the same with a circuit that would open for no time. -/
theorem quoted_path_reloaded :
    ∃ c : Config, c.logFile = some "C:\\logs\\\"é\"" ∧ c.limiterSpace = "" ∧
      c.traceSize = 9223372036854775807 ∧
      ofBytes c.toText.toUTF8.data.toList = .ok c ∧
      ofBytes { c with ttlSeconds := 0 }.toText.toUTF8.data.toList =
        .error (.config .emptyOpening) := by
  let c : Config :=
    { (default : Config) with
      logFile := some "C:\\logs\\\"é\"", limiterSpace := "", traceSize := 9223372036854775807 }
  have simple : ∀ text ∈ c.texts, Simple text := by decide
  have size : c.traceSize < Word.signedEnd := by decide
  obtain ⟨kept, -⟩ := reload_written simple size (by decide : c.ttlSeconds < Word.signedEnd)
  have texts : ∀ text ∈ ({ c with ttlSeconds := 0 } : Config).texts, Simple text := simple
  obtain ⟨-, refused⟩ := reload_written texts size (by decide)
  exact ⟨c, rfl, rfl, rfl, kept rfl, refused _ rfl⟩

end Latchkey.Config
