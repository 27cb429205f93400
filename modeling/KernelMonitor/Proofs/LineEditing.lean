import KernelMonitor.Console.LineEditor

/-! # Line editing

A line is read exactly when the input holds a line end. It is the fold of the editor's rules over
the keys before the first one, ASCII and no longer than the buffer allows, and its echo, replayed
on a terminal, shows exactly the line.
-/

namespace KernelMonitor

namespace LineEditor

/-- The line after the key `b`: an erase drops the last character if there is one, a printable
byte is appended while the line is shorter than `keep`, and every other key leaves it. -/
def editKey (keep : Nat) (line : List Char) (b : UInt8) : List Char :=
  if isErase b then line.dropLast
  else if isPrintable b && line.length < keep then line ++ [Char.ofNat b.toNat]
  else line

/-- The line the keys `bs` leave, starting from the empty line. -/
def edited (keep : Nat) (bs : List UInt8) : List Char := bs.foldl (editKey keep) []

/-- What a terminal shows after `shown` when it receives `cs`, a backspace erasing the character
before it. -/
def replay (shown cs : List Char) : List Char :=
  cs.foldl (fun t c => if c = '\x08' then t.dropLast else t ++ [c]) shown

@[simp] theorem replay_nil (shown : List Char) : replay shown [] = shown := rfl

theorem replay_append (shown cs ds : List Char) :
    replay shown (cs ++ ds) = replay (replay shown cs) ds := by
  rw [replay, List.foldl_append]
  rfl

/-- A line the buffer can hold: at most `keep` characters, all ASCII. -/
structure Fits (keep : Nat) (line : List Char) : Prop where
  length_le : line.length ≤ keep
  ascii : ∀ c ∈ line, c.toNat < 128

variable {keep : Nat}

theorem fits_nil : Fits keep [] := ⟨Nat.zero_le _, by simp⟩

theorem toNat_ofNat_of_isPrintable {b : UInt8} (h : isPrintable b = true) :
    (Char.ofNat b.toNat).toNat = b.toNat ∧ 0x20 ≤ b.toNat ∧ b.toNat ≤ 0x7e := by
  simp only [isPrintable, Bool.and_eq_true, decide_eq_true_eq, UInt8.le_iff_toNat_le] at h
  have hb : b.toNat ≤ 0x7e := h.2
  have hv : b.toNat.isValidChar := Or.inl (by omega)
  refine ⟨?_, h.1, hb⟩
  rw [Char.ofNat, dif_pos hv]
  rfl

theorem fits_editKey {line : List Char} (h : Fits keep line) (b : UInt8) :
    Fits keep (editKey keep line b) := by
  unfold editKey
  split
  · exact ⟨by rw [List.length_dropLast]; exact Nat.le_trans (Nat.sub_le _ _) h.length_le,
      fun c hc => h.ascii c ((List.dropLast_prefix line).subset hc)⟩
  · split
    · rename_i hp
      simp only [Bool.and_eq_true, decide_eq_true_eq] at hp
      have hc := (toNat_ofNat_of_isPrintable hp.1)
      refine ⟨by rw [List.length_append, List.length_singleton]; omega, ?_⟩
      intro c hc'
      rcases List.mem_append.mp hc' with hc' | hc'
      · exact h.ascii c hc'
      · rw [List.mem_singleton.mp hc']
        omega
    · exact h

theorem fits_foldl {line : List Char} (h : Fits keep line) (bs : List UInt8) :
    Fits keep (bs.foldl (editKey keep) line) := by
  induction bs generalizing line with
  | nil => exact h
  | cons b bs ih => exact ih (fits_editKey h b)

theorem readFrom_key {line : List Char} {echo : String} {b : UInt8} {rest : List UInt8}
    (hb : isLineEnd b = false) :
    ∃ piece, readFrom keep line echo (b :: rest) =
      readFrom keep (editKey keep line b) (echo ++ String.ofList piece) rest ∧
      replay line piece = editKey keep line b := by
  by_cases he : isErase b = true
  · by_cases hl : line.isEmpty = true
    · -- an erase on an empty line is ignored: it is no printable byte either
      have hp : isPrintable b = false := by
        simp only [isErase, Bool.or_eq_true, decide_eq_true_eq] at he
        rcases he with rfl | rfl <;> rfl
      have hnil : line = [] := List.isEmpty_iff.mp hl
      refine ⟨[], ?_, ?_⟩
      · rw [readFrom, if_neg (by simp [hl]), if_neg (by simp [hb]), if_neg (by simp [hp]),
          editKey, if_pos he, hnil, List.dropLast_nil, String.ofList_nil, String.append_empty]
      · rw [editKey, if_pos he, hnil, List.dropLast_nil]
        rfl
    · refine ⟨['\x08'], ?_, ?_⟩
      · rw [readFrom, if_pos (by simp [he, hl]), editKey, if_pos he, String.push_eq_append,
          String.singleton_eq_ofList]
      · rw [editKey, if_pos he]
        rfl
  · have he' : isErase b = false := by simpa using he
    by_cases hp : (isPrintable b && line.length < keep) = true
    · refine ⟨[Char.ofNat b.toNat], ?_, ?_⟩
      · rw [readFrom, if_neg (by simp [he']), if_neg (by simp [hb]), if_pos hp, editKey,
          if_neg he, if_pos hp, String.push_eq_append, String.singleton_eq_ofList]
      · -- a printable byte is no backspace
        have hc := toNat_ofNat_of_isPrintable (by simp only [Bool.and_eq_true] at hp; exact hp.1)
        have hne : Char.ofNat b.toNat ≠ '\x08' := by
          intro h
          have := congrArg Char.toNat h
          rw [hc.1] at this
          have : b.toNat = 8 := this
          omega
        rw [editKey, if_neg he, if_pos hp]
        simp [replay, hne]
    · refine ⟨[], ?_, ?_⟩
      · rw [readFrom, if_neg (by simp [he']), if_neg (by simp [hb]), if_neg hp, editKey,
          if_neg he, if_neg hp, String.ofList_nil, String.append_empty]
      · rw [editKey, if_neg he, if_neg hp]
        rfl

theorem readFrom_of_no_lineEnd {line : List Char} {echo : String} {input : List UInt8}
    (h : ∀ b ∈ input, isLineEnd b = false) :
    ∃ e, readFrom keep line echo input = ⟨none, [], echo ++ String.ofList e⟩ ∧
      replay line e = input.foldl (editKey keep) line := by
  induction input generalizing line echo with
  | nil => exact ⟨[], by rw [readFrom, String.ofList_nil, String.append_empty], rfl⟩
  | cons b rest ih =>
    obtain ⟨piece, hstep, hpiece⟩ :=
      @readFrom_key keep line echo b rest (h b (List.mem_cons_self ..))
    obtain ⟨e, hrun, he⟩ := @ih (editKey keep line b) (echo ++ String.ofList piece)
      (fun c hc => h c (List.mem_cons_of_mem _ hc))
    refine ⟨piece ++ e, ?_, ?_⟩
    · rw [hstep, hrun, String.ofList_append, String.append_assoc]
    · rw [replay_append, hpiece, he, List.foldl_cons]

theorem readFrom_of_lineEnd {line : List Char} {echo : String} {pre post : List UInt8}
    {b : UInt8} (hpre : ∀ c ∈ pre, isLineEnd c = false) (hb : isLineEnd b = true) :
    ∃ e, readFrom keep line echo (pre ++ b :: post) =
      ⟨some (String.ofList (pre.foldl (editKey keep) line)), post,
        echo ++ String.ofList e ++ "\n"⟩ ∧
      replay line e = pre.foldl (editKey keep) line := by
  induction pre generalizing line echo with
  | nil =>
    have he : isErase b = false := by
      simp only [isLineEnd, Bool.or_eq_true, decide_eq_true_eq] at hb
      rcases hb with rfl | rfl <;> rfl
    refine ⟨[], ?_, rfl⟩
    rw [List.nil_append, readFrom, if_neg (by simp [he]), if_pos hb, String.push_eq_append,
      String.singleton_eq_ofList, String.ofList_nil, String.append_empty, List.foldl_nil]
  | cons c pre ih =>
    obtain ⟨piece, hstep, hpiece⟩ :=
      @readFrom_key keep line echo c (pre ++ b :: post) (hpre c (List.mem_cons_self ..))
    obtain ⟨e, hrun, he⟩ := @ih (editKey keep line c) (echo ++ String.ofList piece)
      (fun x hx => hpre x (List.mem_cons_of_mem _ hx))
    refine ⟨piece ++ e, ?_, ?_⟩
    · rw [List.cons_append, hstep, hrun, List.foldl_cons, String.ofList_append]
      simp only [String.append_assoc]
    · rw [replay_append, hpiece, he, List.foldl_cons]

theorem exists_first_lineEnd {input : List UInt8} (h : ∃ b ∈ input, isLineEnd b = true) :
    ∃ pre b post, input = pre ++ b :: post ∧ isLineEnd b = true ∧
      ∀ c ∈ pre, isLineEnd c = false := by
  rcases hf : input.find? isLineEnd with _ | b
  · obtain ⟨b, hb, hl⟩ := h
    exact absurd hl (by simpa using List.find?_eq_none.mp hf b hb)
  · obtain ⟨hb, pre, post, hsplit, hpre⟩ := List.find?_eq_some_iff_append.mp hf
    exact ⟨pre, b, post, hsplit, hb, fun c hc => by simpa using hpre c hc⟩

end LineEditor

open LineEditor

/-- Reading a line into a buffer of `buflen` bytes. It reads no line exactly when the input holds
no carriage return or line feed, and then consumes all of it. Otherwise it consumes the input up
to and including the first one, and the line is the keys before it under the editor's rules,
with at most `buflen - 1` characters, all ASCII. The console receives the prompt, then an echo,
then a newline after a line end, and the echo replayed on a terminal where a backspace erases the
character before it shows exactly the edited keys. -/
theorem readLine_edits_first_line (prompt : String) (buflen : Nat) (input : List UInt8) :
    ((readLine prompt buflen input).line = none ↔ ∀ b ∈ input, isLineEnd b = false) ∧
    ((∀ b ∈ input, isLineEnd b = false) → (readLine prompt buflen input).rest = [] ∧
      ∃ e, (readLine prompt buflen input).echo = prompt ++ String.ofList e ∧
        replay [] e = edited (buflen - 1) input) ∧
    ∀ pre b post, input = pre ++ b :: post → isLineEnd b = true →
      (∀ c ∈ pre, isLineEnd c = false) →
      (readLine prompt buflen input).line = some (String.ofList (edited (buflen - 1) pre)) ∧
      (readLine prompt buflen input).rest = post ∧
      (edited (buflen - 1) pre).length ≤ buflen - 1 ∧
      (∀ c ∈ edited (buflen - 1) pre, c.toNat < 128) ∧
      ∃ e, (readLine prompt buflen input).echo = prompt ++ String.ofList e ++ "\n" ∧
        replay [] e = edited (buflen - 1) pre := by
  generalize hr0 : readLine prompt buflen input = r
  have hnone : (∀ b ∈ input, isLineEnd b = false) → r.line = none ∧ r.rest = [] ∧
      ∃ e, r.echo = prompt ++ String.ofList e ∧ replay [] e = edited (buflen - 1) input := by
    intro h
    obtain ⟨e, hrun, he⟩ := @readFrom_of_no_lineEnd (buflen - 1) [] prompt input h
    have hr : r = ⟨none, [], prompt ++ String.ofList e⟩ := hr0.symm.trans hrun
    rw [hr]
    exact ⟨rfl, rfl, e, rfl, he⟩
  have hsome : ∀ pre b post, input = pre ++ b :: post → isLineEnd b = true →
      (∀ c ∈ pre, isLineEnd c = false) →
      r.line = some (String.ofList (edited (buflen - 1) pre)) ∧ r.rest = post ∧
      ∃ e, r.echo = prompt ++ String.ofList e ++ "\n" ∧
        replay [] e = edited (buflen - 1) pre := by
    intro pre b post hsplit hb hpre
    obtain ⟨e, hrun, he⟩ := @readFrom_of_lineEnd (buflen - 1) [] prompt pre post b hpre hb
    have hr : r = ⟨some (String.ofList (edited (buflen - 1) pre)), post,
        prompt ++ String.ofList e ++ "\n"⟩ := by
      rw [← hr0]
      show readFrom (buflen - 1) [] prompt input = _
      rw [hsplit]
      exact hrun
    rw [hr]
    exact ⟨rfl, rfl, e, rfl, he⟩
  refine ⟨⟨fun hl => ?_, fun h => (hnone h).1⟩, fun h => (hnone h).2, ?_⟩
  · -- a line end in the input would end a line
    intro c hc
    cases hlc : isLineEnd c
    · rfl
    · obtain ⟨pre, b, post, hsplit, hb, hpre⟩ := exists_first_lineEnd ⟨c, hc, hlc⟩
      rw [(hsome pre b post hsplit hb hpre).1] at hl
      cases hl
  · intro pre b post hsplit hb hpre
    obtain ⟨hl, hrest, hecho⟩ := hsome pre b post hsplit hb hpre
    have hfits := fits_foldl (@fits_nil (buflen - 1)) pre
    exact ⟨hl, hrest, hfits.length_le, hfits.ascii, hecho⟩

/-- A buffer of four bytes and the keys `a`, `b`, a backspace, `c`, `d`, `e`, a line feed and
`x`: the line keeps `acd`, the three characters the buffer holds, and `x` is left unread. -/
theorem readLine_edits_into_four_bytes :
    let pre : List UInt8 := [0x61, 0x62, 0x08, 0x63, 0x64, 0x65]
    let r := readLine "K> " 4 (pre ++ 0x0a :: [0x78])
    edited 3 pre = ['a', 'c', 'd'] ∧ isLineEnd 0x0a = true ∧ (∀ c ∈ pre, isLineEnd c = false) ∧
      r.line = some (String.ofList (edited 3 pre)) ∧ r.rest = [0x78] := by
  intro pre r
  have hpre : ∀ c ∈ pre, isLineEnd c = false := by simp [pre, isLineEnd]
  have h := (readLine_edits_first_line "K> " 4 (pre ++ 0x0a :: [0x78])).2.2 pre 0x0a [0x78] rfl
    rfl hpre
  exact ⟨by decide, rfl, hpre, h.1, h.2.1⟩

end KernelMonitor
