import KernelMonitor.Proofs.Output

/-! # The words of a command line

`WordSplit` says when a text is a list of words: its longest nonempty runs of characters other
than tab, carriage return, line feed and blank. Every text has exactly one split, the splitter
returns it, and words joined by single blanks split back into themselves.
-/

namespace KernelMonitor

/-- The characters that separate words: tab, carriage return, line feed and blank. Every other
character belongs to a word, other Unicode white space included. -/
def wordBreaks : List Char := ['\t', '\r', '\n', ' ']

theorem isSeparator_iff {c : Char} : isSeparator c = true ↔ c ∈ wordBreaks := by
  simp [isSeparator, wordBreaks, or_assoc]

/-- `WordSplit cs ws`: the text `cs` is the words `ws` in order, each a longest nonempty run of
characters outside `wordBreaks`, with runs of breaks before, between and after them. -/
inductive WordSplit : List Char → List String → Prop
  /-- A text of breaks only has no words. -/
  | breaks {cs : List Char} : (∀ c ∈ cs, c ∈ wordBreaks) → WordSplit cs []
  /-- Breaks, then a word that ends at a break or at the end of the text, then the rest. -/
  | word {pre w rest : List Char} {ws : List String} :
      (∀ c ∈ pre, c ∈ wordBreaks) → w ≠ [] → (∀ c ∈ w, c ∉ wordBreaks) →
      (∀ c ∈ rest.head?, c ∈ wordBreaks) → WordSplit rest ws →
      WordSplit (pre ++ w ++ rest) (String.ofList w :: ws)

namespace WordSplit

variable {c : Char} {cs : List Char} {ws : List String}

theorem cons_break (hc : c ∈ wordBreaks) (h : WordSplit cs ws) : WordSplit (c :: cs) ws := by
  cases h with
  | breaks hcs => exact .breaks (List.forall_mem_cons.mpr ⟨hc, hcs⟩)
  | word hpre hw hnb hrest hsplit =>
    exact .word (List.forall_mem_cons.mpr ⟨hc, hpre⟩) hw hnb hrest hsplit

theorem word_valid (h : WordSplit cs ws) :
    ∀ w ∈ ws, w.toList ≠ [] ∧ ∀ c ∈ w.toList, c ∉ wordBreaks := by
  induction h with
  | breaks => simp
  | word _ hw hnb _ _ ih =>
    intro u hu
    rcases List.mem_cons.mp hu with rfl | hu
    · rw [String.toList_ofList]
      exact ⟨hw, hnb⟩
    · exact ih u hu

end WordSplit

section Scan

theorem wordsFrom_breaks {pre : List Char} (h : ∀ c ∈ pre, c ∈ wordBreaks) (cs : List Char) :
    wordsFrom [] (pre ++ cs) = wordsFrom [] cs := by
  induction pre with
  | nil => rfl
  | cons c pre ih =>
    obtain ⟨hc, hpre⟩ := List.forall_mem_cons.mp h
    rw [List.cons_append, wordsFrom, if_pos (isSeparator_iff.mpr hc), List.isEmpty_nil, if_pos rfl]
    exact ih hpre

theorem wordsFrom_word {w : List Char} (h : ∀ c ∈ w, c ∉ wordBreaks) (cur cs : List Char) :
    wordsFrom cur (w ++ cs) = wordsFrom (w.reverse ++ cur) cs := by
  induction w generalizing cur with
  | nil => rfl
  | cons c w ih =>
    obtain ⟨hc, hw⟩ := List.forall_mem_cons.mp h
    have hsep : isSeparator c = false := Bool.eq_false_iff.mpr (mt isSeparator_iff.mp hc)
    rw [List.cons_append, wordsFrom, if_neg (by simp [hsep]), ih hw, List.reverse_cons,
      List.append_assoc, List.singleton_append]

theorem wordsFrom_end {cur rest : List Char} (hcur : cur ≠ [])
    (h : ∀ c ∈ rest.head?, c ∈ wordBreaks) :
    wordsFrom cur rest = String.ofList cur.reverse :: wordsFrom [] rest := by
  have hne : cur.isEmpty = false := List.isEmpty_eq_false_iff.mpr hcur
  cases rest with
  | nil => simp [wordsFrom, hne]
  | cons c r =>
    have hc : c ∈ wordBreaks := h c rfl
    have hskip : wordsFrom [] (c :: r) = wordsFrom [] r :=
      wordsFrom_breaks (List.forall_mem_singleton.mpr hc) r
    rw [wordsFrom, if_pos (isSeparator_iff.mpr hc), hne, if_neg Bool.false_ne_true, hskip]

end Scan

theorem wordsFrom_of_wordSplit {cs : List Char} {ws : List String} (h : WordSplit cs ws) :
    wordsFrom [] cs = ws := by
  induction h with
  | breaks h => simpa [wordsFrom] using wordsFrom_breaks h []
  | word hpre hw hnb hrest _ ih =>
    rw [List.append_assoc, wordsFrom_breaks hpre, wordsFrom_word hnb, List.append_nil,
      wordsFrom_end (List.reverse_ne_nil_iff.mpr hw) hrest, List.reverse_reverse, ih]

theorem wordSplit_wordsFrom (cur cs : List Char) (hcur : ∀ c ∈ cur, c ∉ wordBreaks) :
    WordSplit (cur.reverse ++ cs) (wordsFrom cur cs) := by
  fun_induction wordsFrom cur cs with
  | case1 cur hcur' =>
    rw [List.isEmpty_iff.mp hcur']
    exact .breaks (by simp)
  | case2 cur hcur' =>
    have hw : cur.reverse ≠ [] := by simpa using hcur'
    simpa using @WordSplit.word [] cur.reverse [] [] (by simp) hw (by simpa using hcur) (by simp)
      (.breaks (by simp))
  | case3 cur c cs hc hcur' ih =>
    rw [List.isEmpty_iff.mp hcur']
    simpa using (ih (by simp)).cons_break (isSeparator_iff.mp hc)
  -- the separator `c` ends the word in progress
  | case4 cur c cs hc hcur' ih =>
    have hw : cur.reverse ≠ [] := by simpa using hcur'
    exact @WordSplit.word [] cur.reverse (c :: cs) _ (by simp) hw (by simpa using hcur)
      (by simpa using isSeparator_iff.mp hc) ((ih (by simp)).cons_break (isSeparator_iff.mp hc))
  | case5 cur c cs hc ih =>
    have hc' : c ∉ wordBreaks := fun h => by simp [isSeparator_iff.mpr h] at hc
    simpa using ih (List.forall_mem_cons.mpr ⟨hc', hcur⟩)

theorem wordSplit_iff {cs : List Char} {ws : List String} :
    WordSplit cs ws ↔ wordsFrom [] cs = ws := by
  constructor
  · exact wordsFrom_of_wordSplit
  · rintro rfl
    simpa using wordSplit_wordsFrom [] cs (by simp)

theorem wordSplit_intercalate {ws : List String}
    (h : ∀ w ∈ ws, w.toList ≠ [] ∧ ∀ c ∈ w.toList, c ∉ wordBreaks) :
    WordSplit (" ".intercalate ws).toList ws := by
  induction ws with
  | nil => exact .breaks (by simp)
  | cons w ws ih =>
    obtain ⟨⟨hw, hnb⟩, hws⟩ := List.forall_mem_cons.mp h
    cases ws with
    | nil =>
      simpa using @WordSplit.word [] w.toList [] [] (by simp) hw hnb (by simp) (.breaks (by simp))
    -- the blank after `w` ends it and starts the split of the rest
    | cons u ws =>
      have hrest := (ih hws).cons_break (show ' ' ∈ wordBreaks by simp [wordBreaks])
      rw [String.intercalate_cons_cons, String.toList_append, String.toList_append]
      simpa using @WordSplit.word [] w.toList _ _ (by simp) hw hnb (by simp [wordBreaks]) hrest

/-- A command line splits into one list of words, its longest runs of characters other than
tab, carriage return, line feed and blank. The splitter returns that list when it has at most
fifteen words, and otherwise refuses the line with the limit sixteen. Joined by single blanks,
an accepted list of words splits back into itself. -/
theorem tokenize_splits_at_blanks (line : String) :
    (∃ ws, WordSplit line.toList ws ∧ ∀ ws', WordSplit line.toList ws' → ws' = ws) ∧
    ∀ ws, WordSplit line.toList ws →
      tokenize line = (if ws.length ≤ 15 then .ok ws else .error (.tooManyArguments 16)) ∧
      (ws.length ≤ 15 → tokenize (" ".intercalate ws) = .ok ws) := by
  refine ⟨⟨words line, wordSplit_iff.mpr rfl, fun ws' h => (wordSplit_iff.mp h).symm⟩, ?_⟩
  intro ws h
  have hw : words line = ws := wordSplit_iff.mp h
  refine ⟨?result, fun hlen => ?again⟩
  case result =>
    split
    · rename_i hlen
      rw [tokenize_of_le_fifteen (by rw [hw]; exact hlen), hw]
    · rename_i hlen
      exact tokenize_of_fifteen_lt (by rw [hw]; omega)
  case again =>
    have hj : words (" ".intercalate ws) = ws :=
      wordSplit_iff.mp (wordSplit_intercalate h.word_valid)
    rw [tokenize_of_le_fifteen (by rw [hj]; exact hlen), hj]

-- an ideographic space belongs to a word; sixteen words are one too many
example : tokenize "a　b\tc " = .ok ["a　b", "c"] := by decide

example : tokenize (" ".intercalate (List.replicate 16 "a")) = .error (.tooManyArguments 16) := by
  decide

end KernelMonitor
