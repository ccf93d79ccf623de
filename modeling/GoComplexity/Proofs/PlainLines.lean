/-
# Plain reports

The lines of a plain report have no quotes, but the names of packages and functions
hold no blank and no end of a line, and the names of files no end of a line.  So a
line is read from its front up to the name of the function, and from its end down to
the name of the file, and a report is the text of one list of scores only.

Key definitions: `Stat.IsPlain`, `Stat.ofLine?`, `readPlain`.
Key theorems: `Stat.ofLine?_render`, `readPlain_textReport`, `print_text`,
`textReport_decodes`.
-/
import GoComplexity.Proofs.Cutting
import GoComplexity.Report.Format

namespace GoComplexity

/-! ### Lines -/

theorem dropPrefix?_append (cs ds : List Char) : (cs ++ ds).dropPrefix? cs = some ds :=
  List.dropPrefix?_eq_some_iff.mpr ⟨cs, rfl, beq_self_eq_true cs⟩

namespace Stat

/-- Whether the names of a score can stand in a line: those of the package and the function
hold neither a blank nor the end of a line, and that of the file no end of a line. -/
structure IsPlain (s : Stat) : Prop where
  package : ' ' ∉ s.package.toList ∧ '\n' ∉ s.package.toList
  function : ' ' ∉ s.function.toList ∧ '\n' ∉ s.function.toList
  file : '\n' ∉ s.position.file.toList

/-- The score of a line. -/
def ofLine? (cs : List Char) : Option Stat := do
  let cs ← cs.dropPrefix? "cyclomatic: ".toList
  let (cyclomatic, cs) ← cutFirst? ',' cs
  let cs ← cs.dropPrefix? " cognitive: ".toList
  let (cognitive, cs) ← cutFirst? ',' cs
  let cs ← cs.dropPrefix? " ".toList
  let (package, cs) ← cutFirst? ' ' cs
  let (function, cs) ← cutFirst? ' ' cs
  return ⟨String.ofList package, String.ofList function, ← integerOf? cyclomatic,
    ← integerOf? cognitive, ← Position.ofChars? cs⟩

variable (s : Stat)

theorem toList_render : s.render.toList =
    "cyclomatic: ".toList ++ ((toString s.cyclomatic).toList ++
      ',' :: (" cognitive: ".toList ++ ((toString s.cognitive).toList ++
        ',' :: (" ".toList ++ (s.package.toList ++
          ' ' :: (s.function.toList ++ ' ' :: s.position.render.toList)))))) := by
  have hrender : s.render = "cyclomatic: " ++ toString s.cyclomatic ++ ", cognitive: " ++
    toString s.cognitive ++ ", " ++
      (s.package ++ " " ++ s.function ++ " " ++ s.position.render) := rfl
  rw [hrender]
  simp only [String.toList_append, List.append_assoc]
  rfl

/-- **A line is read back**, whatever blanks and colons the name of its file holds. -/
theorem ofLine?_render {s : Stat} (hpackage : ' ' ∉ s.package.toList)
    (hfunction : ' ' ∉ s.function.toList) : ofLine? s.render.toList = some s := by
  have hcomma (n : Int) (cs : List Char) : cutFirst? ',' ((toString n).toList ++ ',' :: cs) =
      some ((toString n).toList, cs) :=
    cutFirst?_append cs (notMem_toString rfl (by decide) n)
  unfold ofLine?
  simp only [toList_render, dropPrefix?_append, hcomma, cutFirst?_append _ hpackage,
    cutFirst?_append _ hfunction, integerOf?_toString, Position.ofChars?_render,
    String.ofList_toList, Option.bind_eq_bind, Option.bind_some]
  rfl

/-- The line of a plain score is one line. -/
theorem newline_notMem_render {s : Stat} (h : s.IsPlain) : '\n' ∉ s.render.toList := by
  have hinteger (n : Int) : '\n' ∉ (toString n).toList := notMem_toString rfl (by decide) n
  simp only [toList_render, Position.toList_render, List.mem_append, List.mem_cons, not_or]
  refine ⟨by decide, hinteger _, by decide, by decide, hinteger _, by decide, by decide,
    h.package.2, by decide, h.function.2, by decide, ⟨h.file, by decide, hinteger _⟩, by decide,
    hinteger _⟩

theorem toList_render_ne_nil : s.render.toList ≠ [] := by
  rw [toList_render]
  exact List.append_ne_nil_of_left_ne_nil (by decide) _

end Stat

/-! ### Reports -/

/-- The scores of a plain report: none if it is empty, else one a line. -/
def readPlain (text : String) : Option (List Stat) :=
  if text = "" then some [] else (text.toList.splitOn '\n').mapM Stat.ofLine?

theorem textReport_singleton (s : Stat) : textReport [s] = s.render := by
  rw [textReport, List.map_singleton, String.intercalate_singleton]

theorem textReport_cons_cons (s t : Stat) (stats : List Stat) :
    textReport (s :: t :: stats) = s.render ++ "\n" ++ textReport (t :: stats) := by
  rw [textReport, List.map_cons, List.map_cons, String.intercalate_cons_cons]
  rfl

/-- The lines of a report are those of its scores. -/
theorem splitOn_textReport {stats : List Stat} (h : ∀ s ∈ stats, s.IsPlain) (hne : stats ≠ []) :
    (textReport stats).toList.splitOn '\n' = stats.map fun s => s.render.toList := by
  have hlines : ∀ line ∈ stats.map (fun s => s.render.toList), '\n' ∉ line := by
    intro line hline
    obtain ⟨s, hs, rfl⟩ := List.mem_map.mp hline
    exact Stat.newline_notMem_render (h s hs)
  have htext : (textReport stats).toList =
      ['\n'].intercalate (stats.map fun s => s.render.toList) := by
    rw [textReport, String.toList_intercalate, List.map_map]
    rfl
  rw [htext, List.splitOn_intercalate '\n' hlines (by simpa using hne)]

theorem textReport_ne_empty {stats : List Stat} (hne : stats ≠ []) : textReport stats ≠ "" := by
  obtain ⟨s, rest, rfl⟩ := List.exists_cons_of_ne_nil hne
  intro hempty
  have htext := congrArg String.toList hempty
  cases rest with
  | nil =>
    rw [textReport_singleton] at htext
    exact s.toList_render_ne_nil htext
  | cons t rest =>
    rw [textReport_cons_cons, String.toList_append, String.toList_append] at htext
    exact s.toList_render_ne_nil (List.append_eq_nil_iff.mp (List.append_eq_nil_iff.mp htext).1).1

/-- **A plain report is read back.** -/
theorem readPlain_textReport {stats : List Stat} (h : ∀ s ∈ stats, s.IsPlain) :
    readPlain (textReport stats) = some stats := by
  by_cases hne : stats = []
  · subst hne
    rfl
  · rw [readPlain, if_neg (textReport_ne_empty hne), splitOn_textReport h hne]
    exact mapM_map_eq_some fun s hs => Stat.ofLine?_render (h s hs).package.1 (h s hs).function.1

theorem print_text_cons (terminal : Terminal) (s : Stat) (stats : List Stat) :
    terminal.print .text (s :: stats) = s.render ++ "\n" ++ terminal.print .text stats := by
  show String.join ((s :: stats).map fun s => s.render ++ "\n") = _
  rw [List.map_cons, String.join_cons]
  rfl

/-- What is printed of a plain report is the report, with the end of a line after it if it
has a line. -/
theorem print_text (terminal : Terminal) : ∀ stats : List Stat,
    terminal.print .text stats = textReport stats ++ if stats = [] then "" else "\n"
  | [] => rfl
  | [s] => by
    rw [print_text_cons, textReport_singleton, if_neg (List.cons_ne_nil _ _)]
    exact String.append_empty
  | s :: t :: stats => by
    rw [print_text_cons, print_text terminal (t :: stats), textReport_cons_cons,
      if_neg (List.cons_ne_nil _ _), if_neg (List.cons_ne_nil _ _)]
    exact (String.append_assoc ..).symm

/-- **Plain reports.** If the names of packages and functions hold neither a blank nor the end
of a line, and those of files no end of a line, then a report is read back, two reports are
alike only if their scores are, and what is printed is the report, on any terminal, with the
end of a line after it if it has a line. -/
theorem textReport_decodes {stats others : List Stat} (hstats : ∀ s ∈ stats, s.IsPlain)
    (hothers : ∀ s ∈ others, s.IsPlain) :
    readPlain (textReport stats) = some stats ∧
      (textReport stats = textReport others ↔ stats = others) ∧
      ∀ terminal : Terminal,
        terminal.print .text stats = textReport stats ++ if stats = [] then "" else "\n" := by
  have hread := readPlain_textReport hstats
  exact ⟨hread, ⟨eq_of_read_eq hread (readPlain_textReport hothers), congrArg textReport⟩,
    fun terminal => print_text terminal stats⟩

/-- The score of a function of no package, in a file whose name holds blanks and colons and
looks like a position. -/
def oddStat : Stat := ⟨"", "(*T).m", -3, 12, ⟨"a b, p f c.go:1:1", 7, 2⟩⟩

theorem textReport_oddStat :
    (∀ s ∈ [oddStat, oddStat], s.IsPlain) ∧ (∀ s ∈ [oddStat], s.IsPlain) ∧
      readPlain "cyclomatic: -3, cognitive: 12,  (*T).m a b, p f c.go:1:1:7:2" = some [oddStat] ∧
      textReport [oddStat, oddStat] ≠ textReport [oddStat] := by
  have hplain : oddStat.IsPlain := ⟨by decide, by decide, by decide⟩
  have hone : ∀ s ∈ [oddStat], s.IsPlain := fun s hs => List.mem_singleton.mp hs ▸ hplain
  have htwo : ∀ s ∈ [oddStat, oddStat], s.IsPlain := by simpa using hplain
  refine ⟨htwo, hone, (textReport_decodes hone hone).1, fun heq => ?_⟩
  exact absurd ((textReport_decodes htwo hone).2.1.mp heq) (by decide)

end GoComplexity
