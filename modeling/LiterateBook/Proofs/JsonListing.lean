import LiterateBook.Program
import LiterateBook.Proofs.PrettyJson

/-!
# Listings in JSON

The JSON listing of a source is one JSON text, and it says the blocks and the
diagnostics of the source and nothing else. Listings differ exactly where blocks
or diagnostics do, whatever a code block remembers.
-/

namespace LiterateBook

namespace Listing

/-! ## What a listing says -/

/-- Lines as an array of strings. -/
def linesValue (lines : List Text) : JsonValue :=
  .array (lines.map .string)

/-- A block as an object: its kind, and its lines or its path. -/
def blockValue : Block → JsonValue
  | .prose lines =>
    .object [("type".toList, .string "prose".toList),
      ("lines".toList, linesValue lines)]
  | .code block =>
    .object [("type".toList, .string "code".toList),
      ("lines".toList, linesValue block.lines)]
  | .inclusion path =>
    .object [("type".toList, .string "include".toList), ("path".toList, .string path)]

/-- A diagnostic as an object: its kind and its line under its name, and its
message. -/
def diagnosticValue : Diagnostic → JsonValue
  | .unterminatedRegion kind line =>
    .object [
      ("diagnostic".toList, .object [("UnterminatedRegion".toList, .object [
        ("kind".toList, .string kind.name.toList),
        ("line".toList, .number line)])]),
      ("message".toList, .string (Diagnostic.unterminatedRegion kind line).message)]

/-- A document as an object: its blocks and its diagnostics, each in order. -/
def documentValue (document : Document) : JsonValue :=
  .object [("blocks".toList, .array (document.blocks.map blockValue)),
    ("diagnostics".toList, .array (document.diagnostics.map diagnosticValue))]

theorem value_ofLines (lines : List Text) :
    (ofLines lines).value = linesValue lines := by
  rw [ofLines, Json.value, Json.values_eq_map, List.map_map]
  rfl

theorem value_ofBlock (block : Block) :
    (ofBlock block).value = blockValue block := by
  cases block <;> simp only [ofBlock, Json.value, Json.namedValues, value_ofLines] <;> rfl

theorem value_ofDiagnostic (diagnostic : Diagnostic) :
    (ofDiagnostic diagnostic).value = diagnosticValue diagnostic := rfl

theorem value_ofDocument (document : Document) :
    (ofDocument document).value = documentValue document := by
  have blocks : Json.value ∘ ofBlock = blockValue := funext value_ofBlock
  have diagnostics : Json.value ∘ ofDiagnostic = diagnosticValue :=
    funext value_ofDiagnostic
  simp only [ofDocument, documentValue, Json.value, Json.namedValues,
    Json.values_eq_map, List.map_map, blocks, diagnostics]

/-! ## Different blocks, different listings -/

theorem object_pair_inj {name other : Text}
    {first second third fourth : JsonValue} :
    JsonValue.object [(name, first), (other, second)] =
      .object [(name, third), (other, fourth)] ↔
      first = third ∧ second = fourth := by
  simp

theorem linesValue_inj {first second : List Text} :
    linesValue first = linesValue second ↔ first = second := by
  rw [linesValue, linesValue, JsonValue.array.injEq, List.map_inj_right]
  exact fun _ _ same => JsonValue.string.inj same

/-- Equal blocks are listed alike: what a code block remembers leaves no
trace. -/
theorem ofBlock_eq_of_beq {first second : Block}
    (same : (first == second) = true) :
    ofBlock first = ofBlock second := by
  cases first with
  | prose lines =>
      cases second with
      | prose others => rw [(beq_iff_eq (a := lines)).1 same]
      | _ => cases same
  | code block =>
      cases second with
      | code other =>
          rw [ofBlock, ofBlock, CodeBlock.beq_eq_true_iff.1 same]; rfl
      | _ => cases same
  | inclusion path =>
      cases second with
      | inclusion other => rw [(beq_iff_eq (a := path)).1 same]
      | _ => cases same

theorem beq_of_blockValue_eq {first second : Block}
    (same : blockValue first = blockValue second) :
    (first == second) = true := by
  cases first with
  | prose lines =>
      cases second with
      | prose others =>
          obtain ⟨-, parts⟩ := object_pair_inj.1 same
          exact (beq_iff_eq (a := lines)).2 (linesValue_inj.1 parts)
      | _ => simp [blockValue] at same
  | code block =>
      cases second with
      | code other =>
          obtain ⟨-, parts⟩ := object_pair_inj.1 same
          exact CodeBlock.beq_eq_true_iff.2 (linesValue_inj.1 parts)
      | _ => simp [blockValue] at same
  | inclusion path =>
      cases second with
      | inclusion other =>
          obtain ⟨-, paths⟩ := object_pair_inj.1 same
          exact (beq_iff_eq (a := path)).2 (JsonValue.string.inj paths)
      | _ => simp [blockValue] at same

theorem blockValue_eq_iff {first second : Block} :
    blockValue first = blockValue second ↔ (first == second) = true := by
  constructor
  · exact beq_of_blockValue_eq
  · intro same
    rw [← value_ofBlock, ← value_ofBlock, ofBlock_eq_of_beq same]

theorem ofBlock_eq_iff {first second : Block} :
    ofBlock first = ofBlock second ↔ (first == second) = true := by
  constructor
  · intro same
    apply beq_of_blockValue_eq
    rw [← value_ofBlock, ← value_ofBlock, same]
  · exact ofBlock_eq_of_beq

/-- What tells blocks apart tells lists of them apart. -/
theorem map_eq_map_iff {α : Type} {image : Block → α}
    (faithful : ∀ {first second : Block}, image first = image second ↔
      (first == second) = true)
    {first second : List Block} :
    first.map image = second.map image ↔ (first == second) = true := by
  induction first generalizing second with
  | nil => cases second <;> simp
  | cons block rest ih =>
      cases second with
      | nil => simp
      | cons other others =>
          rw [List.map_cons, List.map_cons, List.cons.injEq, List.cons_beq_cons,
            Bool.and_eq_true, faithful, ih]

theorem eq_of_diagnosticValue_eq {first second : Diagnostic}
    (same : diagnosticValue first = diagnosticValue second) :
    first = second := by
  obtain ⟨kind, line⟩ := first
  obtain ⟨other, place⟩ := second
  obtain ⟨named, -⟩ := object_pair_inj.1 same
  simp only [JsonValue.object.injEq, List.cons.injEq, Prod.mk.injEq,
    true_and, and_true,
    JsonValue.string.injEq, JsonValue.number.injEq, Rat.natCast_inj] at named
  obtain ⟨names, rfl⟩ := named
  cases kind <;> cases other <;> first | rfl | cases names

/-- A listing is a JSON text, and what it says is its document and nothing
else. -/
theorem says_json_iff (document : Document) {value : JsonValue} :
    JsonValue.Says (json document ++ ['\n']) value ↔
      value = documentValue document := by
  rw [json, JsonValue.says_pretty_iff, value_ofDocument]

/-- Documents have one listing exactly when their blocks and their diagnostics
are equal. -/
theorem json_eq_iff {first second : Document} :
    json first = json second ↔
      (first.blocks == second.blocks) = true ∧
        first.diagnostics = second.diagnostics := by
  constructor
  · intro same
    have said := (says_json_iff first).2 rfl
    rw [same, says_json_iff] at said
    obtain ⟨blocks, diagnostics⟩ := object_pair_inj.1 said
    exact ⟨(map_eq_map_iff blockValue_eq_iff).1 (JsonValue.array.inj blocks),
      (List.map_inj_right fun _ _ => eq_of_diagnosticValue_eq).1
        (JsonValue.array.inj diagnostics)⟩
  · rintro ⟨blocks, diagnostics⟩
    rw [json, json, ofDocument, ofDocument,
      (map_eq_map_iff ofBlock_eq_iff).2 blocks, diagnostics]

end Listing

/-! ## What the command prints -/

/-- The listing of a source that can be read is printed alone, however the run
is shown. -/
theorem Command.run_json {fs : FileSystem} {settings : Settings}
    {file source : Text} {config : Config}
    (loaded : (Config.loadOrDefault fs (settings.root fs)).result = .ok config)
    (read : fs.readText file = .ok source) :
    (run fs settings (.blocks file .json)).1.ending = .done ∧
      ∀ display : Display,
        display.output (run fs settings (.blocks file .json)).1 =
        Listing.json (config.weaver.document source) ++ ['\n'] := by
  have answer : readDocument fs config.weaver file =
      ⟨(config.weaver.document source).events ++
        [parsedEvent file (config.weaver.document source)],
      .ok (config.weaver.document source)⟩ := by
    rw [readDocument, read]
    rfl
  have outcome : (run fs settings (.blocks file .json)).1 =
      ((execute fs config (.blocks file .json)).1.after
        ((Config.loadOrDefault fs (settings.root fs)).events.map .event ++
          settings.notice fs)) := by
    simp only [run, loaded]
  rw [outcome, execute, answer]
  exact ⟨rfl, fun display => List.append_nil _⟩

/-- The JSON listing of a source is one JSON text, and it says the blocks and
the diagnostics of the source. No other document has this listing, unless its
blocks and diagnostics are equal. When the program is asked for the listing of a
file that it can read, it prints the listing and nothing else, however the run
is shown. -/
theorem Listing.says_json (policy : BlankPolicy) (source : Text) :
    let document := Document.ofSource policy source
    let printed := json document ++ ['\n']
    (∀ value, JsonValue.Says printed value ↔ value = documentValue document) ∧
    (∀ other : Document, json other ++ ['\n'] = printed ↔
      (other.blocks == document.blocks) = true ∧
        other.diagnostics = document.diagnostics) ∧
    ∀ (environment : Program.Environment) {fs : FileSystem} {arguments : List Text}
        {settings : Settings} {file : Text} {config : Config},
      Arguments.read arguments = .ok (settings, some (.blocks file .json)) →
      (Config.loadOrDefault fs (settings.root fs)).result = .ok config →
      config.blankPolicy = policy → fs.readText file = .ok source →
      (Program.run fs environment arguments).1.ending = .done ∧
        ∀ display : Display,
          display.output (Program.run fs environment arguments).1 =
            printed := by
  refine ⟨fun value => says_json_iff _, fun other => ?_, ?_⟩
  · rw [List.append_left_inj]
    exact json_eq_iff
  · intro environment fs arguments settings file config asked loaded chosen read
    cases chosen
    rw [Program.run, asked]
    exact Command.run_json loaded read

/-- A listing with a quote, a backslash and a control character in a region that
is never closed. -/
theorem Listing.says_json_example :
    let source : Text := "//#include \"x\"\n//`\n\"\\\x01\n".toList
    let fs : FileSystem := ⟨.dir [("a.kt".toList, .file (.text source))], []⟩
    let arguments := ["blocks", "--format=json", "a.kt"].map String.toList
    Arguments.read arguments =
        .ok (⟨none, false, false⟩, some (.blocks "a.kt".toList .json)) ∧
      (Config.loadOrDefault fs []).result = .ok .default ∧
      fs.readText "a.kt".toList = .ok source ∧
      JsonValue.Says (Display.bare.output (Program.run fs ⟨true, none⟩ arguments).1)
        (.object [
          ("blocks".toList, .array [
            .object [("type".toList, .string "include".toList),
              ("path".toList, .string ['x'])],
            .object [("type".toList, .string "code".toList),
              ("lines".toList, .array [.string ['"', '\\', '\x01', '\n']])]]),
          ("diagnostics".toList, .array [.object [
            ("diagnostic".toList, .object [("UnterminatedRegion".toList, .object [
              ("kind".toList, .string "code".toList),
              ("line".toList, .number 2)])]),
            ("message".toList,
              .string
                "code region opened on line 2 is never closed".toList)]])]) := by
  intro source fs arguments
  have asked : Arguments.read arguments =
      .ok (⟨none, false, false⟩, some (.blocks "a.kt".toList .json)) := by
    decide +kernel
  have loaded : (Config.loadOrDefault fs []).result = .ok .default := by
    decide +kernel
  have read : fs.readText "a.kt".toList = .ok source := rfl
  obtain ⟨said, -, printed⟩ := says_json .drop source
  refine ⟨asked, loaded, read, ?_⟩
  rw [(printed ⟨true, none⟩ asked loaded rfl read).2 .bare, said]
  with_unfolding_all rfl

end LiterateBook
