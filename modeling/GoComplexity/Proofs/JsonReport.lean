/-
# JSON reports are read back

A report is the text of a list that has one object a score, in the order of the scores
and each with the same five keys; from the object the score is read back, its position
by the last two colons of a text that has no quotes of its own.  So a report is the
text of one list of scores only, whatever characters their names hold.

Key definitions: `Stat.ofJson?`, `readJson`.
Key theorems: `Stat.ofJson?_toJson`, `ofText?_jsonReport`, `readJson_jsonReport`,
`jsonReport_decodes`.
-/
import GoComplexity.Proofs.JsonReading

namespace GoComplexity

namespace Stat

/-- The keys of a score's object. -/
def keys : List String := ["pkg_name", "func_name", "cyclomatic", "cognitive", "pos"]

/-- The score of an object that has the five keys and no other. -/
def ofJson? : Json → Option Stat
  | .object members =>
    match members.map Prod.fst == keys, members.map Prod.snd with
    | true, [.text package, .text function, .integer cyclomatic, .integer cognitive,
        .text position] =>
      (Position.ofChars? position.toList).map fun position =>
        ⟨package, function, cyclomatic, cognitive, position⟩
    | _, _ => none
  | _ => none

/-- The object of a score has the five keys. -/
theorem toJson_keys (s : Stat) :
    ∃ members, s.toJson = .object members ∧ members.map Prod.fst = keys :=
  ⟨_, rfl, rfl⟩

/-- **A score is read back from its object.** -/
theorem ofJson?_toJson (s : Stat) : ofJson? s.toJson = some s := by
  show (Position.ofChars? s.position.render.toList).map _ = _
  rw [Position.ofChars?_render, Option.map_some]

end Stat

/-- The scores of a report. -/
def readJson (text : String) : Option (List Stat) :=
  match Json.ofText? text with
  | some (.list items) => items.mapM Stat.ofJson?
  | _ => none

variable (stats : List Stat)

/-- A report has one object a score, in their order. -/
theorem ofText?_jsonReport :
    Json.ofText? (jsonReport stats) = some (.list (stats.map Stat.toJson)) :=
  Json.ofText?_render _

/-- **A report is read back.** -/
theorem readJson_jsonReport : readJson (jsonReport stats) = some stats := by
  rw [readJson, ofText?_jsonReport]
  exact mapM_map_eq_some fun s _ => s.ofJson?_toJson

theorem jsonReport_injective : Function.Injective jsonReport := fun stats others =>
  eq_of_read_eq (readJson_jsonReport stats) (readJson_jsonReport others)

/-- **JSON reports.** A report of any scores is the text of a list with one object a score, in
their order and each with the five keys.  The scores are read back from it, where the text of a
position is cut in one way at its last two colons; and two reports are alike only if their
scores are. -/
theorem jsonReport_decodes :
    (Json.ofText? (jsonReport stats) = some (.list (stats.map Stat.toJson)) ∧
      ∀ s ∈ stats, ∃ members, s.toJson = .object members ∧ members.map Prod.fst = Stat.keys) ∧
    readJson (jsonReport stats) = some stats ∧
    (∀ s ∈ stats, ∀ file line column : List Char,
      (s.position.render.toList = (file ++ ':' :: line) ++ ':' :: column ∧
          ':' ∉ line ∧ ':' ∉ column) ↔
        file = s.position.file.toList ∧ line = (toString s.position.line).toList ∧
          column = (toString s.position.column).toList) ∧
    ∀ others : List Stat, jsonReport stats = jsonReport others ↔ stats = others := by
  refine ⟨⟨ofText?_jsonReport stats, fun s _ => s.toJson_keys⟩, readJson_jsonReport stats,
    fun s _ _ _ _ => s.position.cut_render, fun others => jsonReport_injective.eq_iff⟩

/-- The score of a function whose names hold a quote, a control character and a character of two
units, in a file whose path holds a backslash and colons. -/
def escapedStat : Stat := ⟨"\"\x07", "😀", 0, -1, ⟨"C:\\a:1", 2, 3⟩⟩

theorem jsonReport_escapedStat :
    jsonReport [escapedStat] = "[\n  \x7b\n    \"pkg_name\": \"\\\"\\u0007\",\n" ++
        "    \"func_name\": \"\\ud83d\\ude00\",\n    \"cyclomatic\": 0,\n" ++
        "    \"cognitive\": -1,\n    \"pos\": \"C:\\\\a:1:2:3\"\n  \x7d\n]" ∧
      readJson (jsonReport [escapedStat]) = some [escapedStat] ∧
      jsonReport [escapedStat] ≠ jsonReport [] := by
  obtain ⟨-, hread, -, halike⟩ := jsonReport_decodes [escapedStat]
  exact ⟨by decide +kernel, hread, fun heq => absurd ((halike []).mp heq) (by decide)⟩

end GoComplexity
