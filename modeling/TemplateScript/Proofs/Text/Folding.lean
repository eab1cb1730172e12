import Mathlib.Data.List.DropRight
import Mathlib.Tactic.Common
import TemplateScript.Template.Shape

/-! Any way of reading a text that takes each blank for a gap reads the same lines before and after folding,
since trimming a line, dropping an empty one and joining the rest by spaces change nothing but gaps. -/

namespace TemplateScript

namespace Text

variable {c : Char} {cs line : List Char}

def isSpacing (c : Char) : Bool := c == ' ' || c == '\t' || c == '\n'

def visible (cs : List Char) : List Char := cs.filter (! isSpacing ·)

def words (cs : List Char) : List (List Char) := (cs.splitOnP isSpacing).filter (! ·.isEmpty)

def withReturns (cs : List Char) : List Char := cs.flatMap fun c => if c = '\n' then ['\r', '\n'] else [c]

lemma lines_ne_nil (cs : List Char) : lines cs ≠ [] := by
  fun_cases lines cs <;> simp

lemma lines_eq_splitOn (cs : List Char) : lines cs = cs.splitOn '\n' := by
  fun_induction lines cs with
  | case1 => exact (List.splitOn_nil _).symm
  | case2 cs ih => rw [List.splitOn_cons_eq_if_modifyHead, if_pos (beq_self_eq_true _), ih]
  | case3 c cs h hcs => exact absurd hcs (lines_ne_nil cs)
  | case4 c cs h line rest hcs ih =>
    rw [List.splitOn_cons_eq_if_modifyHead, if_neg (by simpa using h), ← ih, hcs, List.modifyHead_cons]

lemma lines_cons_of_ne (h : c ≠ '\n') (cs : List Char) : lines (c :: cs) = (lines cs).modifyHead (c :: ·) := by
  rw [lines_eq_splitOn, lines_eq_splitOn, List.splitOn_cons_eq_if_modifyHead, if_neg (by simpa using h)]

lemma lines_eq_singleton (h : '\n' ∉ cs) : lines cs = [cs] := by
  rw [lines_eq_splitOn, List.splitOn_eq_singleton h]

lemma intercalate_lines (cs : List Char) : ['\n'].intercalate (lines cs) = cs := by
  rw [lines_eq_splitOn, List.intercalate_splitOn]

lemma flatten_lines (cs : List Char) : (lines cs).flatten = cs.filter (· != '\n') := by
  fun_induction lines cs with
  | case1 => rfl
  | case2 cs ih => exact ih
  | case3 c cs h hcs => exact absurd hcs (lines_ne_nil cs)
  | case4 c cs h line rest hcs ih =>
    rw [List.filter_cons_of_pos (by simpa using h), ← ih, hcs]
    rfl

lemma of_mem_lines (hline : line ∈ lines cs) (hc : c ∈ line) : c ∈ cs ∧ c ≠ '\n' := by
  have hmem : c ∈ (lines cs).flatten := List.mem_flatten.2 ⟨line, hline, hc⟩
  rw [flatten_lines, List.mem_filter, bne_iff_ne] at hmem
  exact hmem

lemma dropReturn_of_notMem (h : '\r' ∉ line) : dropReturn line = line :=
  if_neg fun hlast => h (List.mem_of_getLast? hlast)

lemma dropReturn_cons (h : c ≠ '\r') (line : List Char) : dropReturn (c :: line) = c :: dropReturn line := by
  cases line with
  | nil => simp [dropReturn, h]
  | cons d line =>
    rw [dropReturn, dropReturn, List.getLast?_cons_cons, List.dropLast_cons_cons]
    split <;> rfl

lemma map_dropReturn_lines (h : '\r' ∉ cs) : (lines cs).map dropReturn = lines cs := by
  have hlines : ∀ line ∈ lines cs, dropReturn line = id line := by
    intro line hline
    apply dropReturn_of_notMem
    intro hmem
    exact h (of_mem_lines hline hmem).1
  rw [List.map_congr_left hlines, List.map_id]

lemma map_dropReturn_lines_withReturns (h : '\r' ∉ cs) :
    (lines (withReturns cs)).map dropReturn = lines cs := by
  induction cs with
  | nil => rfl
  | cons c cs ih =>
    rw [List.mem_cons, not_or] at h
    by_cases hc : c = '\n'
    · -- The first line is empty, so with the carriage return it holds nothing else.
      subst hc
      have hlines : lines (withReturns ('\n' :: cs)) = ['\r'] :: lines (withReturns cs) := rfl
      rw [hlines, List.map_cons, ih h.2]
      rfl
    · have htext : withReturns (c :: cs) = c :: withReturns cs := by simp [withReturns, hc]
      rw [htext, lines_cons_of_ne hc, lines_cons_of_ne hc, ← ih h.2]
      cases lines (withReturns cs) with
      | nil => rfl
      | cons line rest =>
        rw [List.modifyHead_cons, List.map_cons, dropReturn_cons (Ne.symm h.1), List.map_cons, List.modifyHead_cons]

lemma foldBreaks_withReturns (h : '\r' ∉ cs) : foldBreaks (withReturns cs) = foldBreaks cs := by
  rw [foldBreaks, foldBreaks, map_dropReturn_lines_withReturns h, map_dropReturn_lines h]

/-- The reading takes the character for a gap: it reads what stands before it and after it apart. -/
structure GapAt {α : Type} (read : List Char → List α) (c : Char) : Prop where
  nil : read [] = []
  append_cons (front back : List Char) : read (front ++ c :: back) = read front ++ read back

lemma gapAt_filter {p : Char → Bool} (h : p c = false) : GapAt (List.filter p) c where
  nil := rfl
  append_cons front back := by
    rw [List.filter_append, List.filter_cons_of_neg (by simp [h])]

lemma gapAt_visible (h : isSpacing c) : GapAt visible c :=
  gapAt_filter (by simp [h])

lemma gapAt_words (h : isSpacing c) : GapAt words c where
  nil := rfl
  append_cons front back := by
    rw [words, List.splitOnP_append_cons front back h, List.filter_append, words, words]

section Reading

variable {α : Type} {read : List Char → List α}

lemma GapAt.intercalate (h : GapAt read c) (ls : List (List Char)) : read ([c].intercalate ls) = ls.flatMap read := by
  induction ls with
  | nil => exact h.nil
  | cons line rest ih =>
    cases rest with
    | nil => rw [List.intercalate_singleton, List.flatMap_singleton]
    | cons line' rest =>
      rw [List.flatMap_cons, ← ih, List.intercalate_cons_cons, List.append_assoc, List.singleton_append, h.append_cons]

lemma GapAt.flatMap_lines (h : GapAt read '\n') (cs : List Char) : (lines cs).flatMap read = read cs := by
  rw [← h.intercalate, intercalate_lines]

variable (hblank : ∀ c, isBlank c → GapAt read c)

include hblank

lemma read_dropWhile (line : List Char) : read (line.dropWhile isBlank) = read line := by
  induction line with
  | nil => rfl
  | cons c line ih =>
    rw [List.dropWhile_cons]
    split
    · next hc =>
      have hgap := (hblank c hc).append_cons [] line
      rw [(hblank c hc).nil, List.nil_append, List.nil_append] at hgap
      rw [ih, hgap]
    · rfl

lemma read_dropEndWhile (line : List Char) : read (dropEndWhile isBlank line) = read line := by
  change read (line.rdropWhile isBlank) = read line
  induction line using List.reverseRecOn with
  | nil => rfl
  | append_singleton line c ih =>
    rw [List.rdropWhile_concat]
    split
    · next hc => rw [ih, (hblank c hc).append_cons, (hblank c hc).nil, List.append_nil]
    · rfl

lemma read_trimStart (first : Bool) (line : List Char) :
    read (if first then line else line.dropWhile isBlank) = read line := by
  cases first
  · exact read_dropWhile hblank line
  · rfl

lemma flatMap_trimBreaks (first : Bool) (ls : List (List Char)) :
    (trimBreaks first ls).flatMap read = ls.flatMap read := by
  fun_induction trimBreaks first ls with
  | case1 => rfl
  | case2 first line => rw [List.flatMap_singleton, List.flatMap_singleton, read_trimStart hblank]
  | case3 first line rest _ ih =>
    rw [List.flatMap_cons, List.flatMap_cons, ih, read_dropEndWhile hblank, read_trimStart hblank]

lemma flatMap_filter_isEmpty (ls : List (List Char)) : (ls.filter (! ·.isEmpty)).flatMap read = ls.flatMap read := by
  induction ls with
  | nil => rfl
  | cons line rest ih =>
    cases line with
    | nil => rw [List.filter_cons_of_neg (by simp), ih, List.flatMap_cons, (hblank ' ' rfl).nil, List.nil_append]
    | cons c line => rw [List.filter_cons_of_pos (by simp), List.flatMap_cons, List.flatMap_cons, ih]

lemma read_foldBreaks_lines (h : '\r' ∉ cs) : read (foldBreaks cs) = (lines cs).flatMap read := by
  rw [foldBreaks, (hblank ' ' rfl).intercalate, flatMap_filter_isEmpty hblank, flatMap_trimBreaks hblank,
    map_dropReturn_lines h]

end Reading

lemma read_foldBreaks {α : Type} {read : List Char → List α} (hgap : ∀ c, isSpacing c → GapAt read c)
    (h : '\r' ∉ cs) : read (foldBreaks cs) = read cs := by
  have hblank : ∀ c, isBlank c → GapAt read c := by
    intro c hc
    apply hgap
    rw [isSpacing, Bool.or_eq_true]
    exact .inl hc
  rw [read_foldBreaks_lines hblank h, (hgap '\n' rfl).flatMap_lines]

lemma of_mem_foldBreaks (h : '\r' ∉ cs) (hc : isBlank c = false) (hmem : c ∈ foldBreaks cs) : c ∈ cs ∧ c ≠ '\n' := by
  have hblank : ∀ d, isBlank d → GapAt (List.filter (· == c)) d := by
    intro d hd
    apply gapAt_filter
    rw [beq_eq_false_iff_ne]
    rintro rfl
    exact Bool.false_ne_true (hc.symm.trans hd)
  -- The reading that sees the character `c` alone finds it in one of the lines.
  have hread : c ∈ (foldBreaks cs).filter (· == c) := List.mem_filter.2 ⟨hmem, beq_self_eq_true c⟩
  rw [read_foldBreaks_lines hblank h, List.mem_flatMap] at hread
  obtain ⟨line, hline, hread⟩ := hread
  exact of_mem_lines hline (List.mem_filter.1 hread).1

lemma foldBreaks_eq_self (hreturn : '\r' ∉ cs) (hbreak : '\n' ∉ cs) : foldBreaks cs = cs := by
  rw [foldBreaks, map_dropReturn_lines hreturn, lines_eq_singleton hbreak]
  cases cs <;> simp [trimBreaks]

end Text

open Text

/-- Normalizing a text without carriage returns leaves no line feed in it and loses nothing but spaces, tabs and line
feeds; its words stay apart and whole. It changes no text that has no line feed, so nothing when it is repeated, and
it reads a carriage return with a line feed as a line feed. -/
theorem normalizeText_stable (t : String) (h : '\r' ∉ t.toList) :
    '\n' ∉ (normalizeText t).toList ∧
    normalizeText (normalizeText t) = normalizeText t ∧
    visible (normalizeText t).toList = visible t.toList ∧
    words (normalizeText t).toList = words t.toList ∧
    ('\n' ∉ t.toList → normalizeText t = t) ∧
    normalizeText (String.ofList (withReturns t.toList)) = normalizeText t := by
  have hbreak : '\n' ∉ foldBreaks t.toList := fun hmem => (of_mem_foldBreaks h rfl hmem).2 rfl
  have hreturn : '\r' ∉ foldBreaks t.toList := fun hmem => h (of_mem_foldBreaks h rfl hmem).1
  simp only [normalizeText, String.toList_ofList]
  refine ⟨hbreak, ?_, read_foldBreaks (fun _ => gapAt_visible) h, read_foldBreaks (fun _ => gapAt_words) h, ?_, ?_⟩
  · rw [foldBreaks_eq_self hreturn hbreak]
  · intro hone
    rw [foldBreaks_eq_self h hone, String.ofList_toList]
  · rw [foldBreaks_withReturns h]

theorem normalizeText_stable_lines :
    let t := " a\t\n \n\n\tb  c \n d "
    let folded := " a b  c d "
    '\r' ∉ t.toList ∧ normalizeText t = folded ∧ normalizeText folded = folded ∧
      visible folded.toList = visible t.toList ∧ words folded.toList = words t.toList ∧
      '\r' ∉ folded.toList ∧ '\n' ∉ folded.toList ∧
      normalizeText " a\t\r\n \r\n\r\n\tb  c \r\n d " = folded := by
  intro t folded
  have ht : '\r' ∉ t.toList := by decide
  have hfolded : normalizeText t = folded := by decide
  have hreturn : '\r' ∉ folded.toList := by decide
  have hwritten : String.ofList (withReturns t.toList) = " a\t\r\n \r\n\r\n\tb  c \r\n d " := by decide
  obtain ⟨hbreak, -, hvisible, hwords, -, hreturns⟩ := normalizeText_stable t ht
  obtain ⟨-, -, -, -, hsame, -⟩ := normalizeText_stable folded hreturn
  rw [hfolded] at hbreak hvisible hwords hreturns
  rw [hwritten] at hreturns
  exact ⟨ht, hfolded, hsame hbreak, hvisible, hwords, hreturn, hbreak, hreturns⟩

end TemplateScript
