import KernelMonitor.Symbols

/-! # Looking up symbols

The halving search lands on the number of passing entries when they all come first, so on a
table accepted for its sorted addresses both the function and the line lookups agree with a
linear scan.
-/

namespace KernelMonitor

section PartitionPoint

variable {α : Type} (p : α → Bool) (xs : List α)

/-- The halving search keeps the number `k` of passing entries inside its window, and lands on
it when the window is one entry wide. -/
theorem partitionPoint.go_eq {k : Nat} (hsplit : ∀ i (h : i < xs.length), p xs[i] = decide (i < k))
    {base size : Nat} (hlen : base + size ≤ xs.length) (hs : 0 < size)
    (hk : base ≤ k ∧ k ≤ base + size) : partitionPoint.go p xs base size = k := by
  fun_induction partitionPoint.go p xs base size with
  | case1 base size hsize mid ih =>
    -- the middle entry tells on which side of it the passing entries end
    have hmid : mid < xs.length := by omega
    have hcond : (xs[mid]?.map p).getD false = decide (mid < k) := by
      rw [List.getElem?_eq_getElem hmid, Option.map_some, Option.getD_some, hsplit _ hmid]
    by_cases hlt : mid < k
    · have hc : (xs[mid]?.map p).getD false = true := by rw [hcond]; exact decide_eq_true hlt
      rw [dif_pos hc] at ih
      rw [if_pos hc]
      exact ih (by omega) (by omega) (by omega)
    · have hc : ¬(xs[mid]?.map p).getD false = true := by rw [hcond]; simpa using hlt
      rw [dif_neg hc] at ih
      rw [if_neg hc]
      exact ih (by omega) (by omega) (by omega)
  | case2 base size hsize =>
    -- one entry is left: it passes exactly when the passing entries run past it
    have hbase : base < xs.length := by omega
    rw [List.getElem?_eq_getElem hbase, Option.map_some, Option.getD_some, hsplit _ hbase]
    by_cases hlt : base < k
    · rw [if_pos (decide_eq_true hlt)]
      omega
    · rw [if_neg (by simpa using hlt)]
      omega

theorem partitionPoint_eq {k : Nat} (hk : k ≤ xs.length)
    (hsplit : ∀ i (h : i < xs.length), p xs[i] = decide (i < k)) : partitionPoint p xs = k := by
  rw [partitionPoint]
  split
  · rename_i h
    rw [List.isEmpty_iff.mp h] at hk
    exact (Nat.le_zero.mp hk).symm
  · rename_i h
    have hl : 0 < xs.length := by
      cases xs with
      | nil => exact absurd rfl h
      | cons => simp
    exact partitionPoint.go_eq p xs hsplit (by omega) hl (by omega)

variable {p xs}

/-- A test that every earlier entry passes when a later one does. -/
def ClosedDownward (p : α → Bool) (xs : List α) : Prop :=
  xs.Pairwise fun a b => p b = true → p a = true

theorem false_of_mem_of_head_false {a : α} (hmono : ClosedDownward p (a :: xs))
    (ha : p a = false) {b : α} (hb : b ∈ xs) : p b = false := by
  cases hpb : p b
  · rfl
  · have := (List.pairwise_cons.mp hmono).1 b hb hpb
    rw [ha] at this
    cases this

theorem filter_eq_nil_of_head_false {a : α} (hmono : ClosedDownward p (a :: xs))
    (ha : p a = false) : (a :: xs).filter p = [] := by
  rw [List.filter_cons_of_neg (by simp [ha]), List.filter_eq_nil_iff]
  intro b hb
  simp [false_of_mem_of_head_false hmono ha hb]

theorem getElem_eq_decide_lt_length_filter (hmono : ClosedDownward p xs) :
    ∀ i (h : i < xs.length), p xs[i] = decide (i < (xs.filter p).length) := by
  induction xs with
  | nil => intro i h; cases h
  | cons a xs ih =>
    have hm : ClosedDownward p xs := (List.pairwise_cons.mp hmono).2
    intro i hi
    cases hpa : p a
    · rw [filter_eq_nil_of_head_false hmono hpa]
      cases i with
      | zero => simpa using hpa
      | succ j => simpa using false_of_mem_of_head_false hmono hpa (List.getElem_mem _)
    · rw [List.filter_cons_of_pos hpa]
      cases i with
      | zero => simpa using hpa
      | succ j =>
        rw [List.getElem_cons_succ, ih hm j (by simpa using hi), List.length_cons]
        simp

theorem filter_eq_takeWhile (hmono : ClosedDownward p xs) : xs.filter p = xs.takeWhile p := by
  induction xs with
  | nil => rfl
  | cons a xs ih =>
    cases hpa : p a
    · rw [filter_eq_nil_of_head_false hmono hpa, List.takeWhile_cons_of_neg (by simp [hpa])]
    · rw [List.filter_cons_of_pos hpa, List.takeWhile_cons_of_pos hpa,
        ih (List.pairwise_cons.mp hmono).2]

theorem partitionPoint_eq_length_filter (hmono : ClosedDownward p xs) :
    partitionPoint p xs = (xs.filter p).length :=
  partitionPoint_eq p xs (List.length_filter_le p xs) (getElem_eq_decide_lt_length_filter hmono)

theorem getLast?_filter (hmono : ClosedDownward p xs) {n : Nat}
    (hn : (xs.filter p).length = n + 1) : (xs.filter p).getLast? = xs[n]? := by
  have hle := List.length_filter_le p xs
  have hpre : xs.filter p <+: xs := by
    rw [filter_eq_takeWhile hmono]
    exact List.takeWhile_prefix p
  rw [List.getLast?_eq_getElem?, hn, Nat.add_sub_cancel,
    List.getElem?_eq_getElem (by omega), List.getElem?_eq_getElem (by omega),
    hpre.getElem (by omega)]

theorem getLast?_filter_of_length_zero (hn : (xs.filter p).length = 0) :
    (xs.filter p).getLast? = none := by
  rw [List.length_eq_zero_iff.mp hn]
  rfl

end PartitionPoint

section Symbols

theorem closedDownward_of_sorted {α : Type} {key : α → UInt32} {xs : List α}
    (hs : xs.Pairwise fun a b => key a ≤ key b) (eip : UInt32) :
    ClosedDownward (fun a => decide (key a ≤ eip)) xs :=
  hs.imp fun hab hb => decide_eq_true (UInt32.le_trans hab (of_decide_eq_true hb))

theorem addrsSorted_iff_pairwise (fns : List FnSymbol) :
    addrsSorted fns = true ↔ fns.Pairwise fun f g => f.addr ≤ g.addr := by
  fun_induction addrsSorted fns with
  | case1 a b rest ih =>
    rw [Bool.and_eq_true, ih, decide_eq_true_iff]
    constructor
    · rintro ⟨hab, hrest⟩
      refine List.Pairwise.cons ?_ hrest
      intro x hx
      rcases List.mem_cons.mp hx with rfl | hx
      · exact hab
      · exact UInt32.le_trans hab ((List.pairwise_cons.mp hrest).1 x hx)
    · intro h
      exact ⟨(List.pairwise_cons.mp h).1 b (List.mem_cons_self ..), (List.pairwise_cons.mp h).2⟩
  | case2 l hl =>
    match l, hl with
    | [], _ => simp
    | [_], _ => simp
    | a :: b :: rest, hl => exact absurd rfl (hl a b rest)

theorem SymbolTable.ofList?_eq_some_iff {fns : List FnSymbol} {t : SymbolTable} :
    SymbolTable.ofList? fns = some t ↔ (fns.Pairwise fun f g => f.addr ≤ g.addr) ∧ t.fns = fns := by
  rw [SymbolTable.ofList?, ← addrsSorted_iff_pairwise]
  by_cases hs : addrsSorted fns = true
  · rw [if_pos hs, Option.some.injEq]
    constructor
    · rintro rfl
      exact ⟨hs, rfl⟩
    · rintro ⟨-, rfl⟩
      rfl
  · rw [if_neg hs]
    simp [hs]

/-- The last function in list order that starts at or below `eip`. -/
def lastFnAtOrBelow? (fns : List FnSymbol) (eip : UInt32) : Option FnSymbol :=
  (fns.filter fun f => f.addr ≤ eip).getLast?

/-- The line of `eip` by a linear scan of the line table: that of the last entry at or below
`eip`, else the function's first line. -/
def FnSymbol.scanLine (f : FnSymbol) (eip : UInt32) : UInt32 :=
  (((f.lines.filter fun l => l.addr ≤ eip).getLast?).map (·.line)).getD f.line

theorem FnSymbol.lineOf_eq_scanLine (f : FnSymbol) (eip : UInt32)
    (hs : f.lines.Pairwise fun a b => a.addr ≤ b.addr) : f.lineOf eip = f.scanLine eip := by
  have hmono := closedDownward_of_sorted hs eip
  unfold FnSymbol.lineOf FnSymbol.scanLine
  rw [partitionPoint_eq_length_filter hmono]
  rcases hn : (f.lines.filter fun l => l.addr ≤ eip).length with _ | n
  · rw [hn, getLast?_filter_of_length_zero hn]
    rfl
  · rw [hn, getLast?_filter hmono hn]

/-- On a sorted table the lookup takes the last function in list order that starts at or below
`eip`, and reports it when `eip` lies inside it. -/
theorem SymbolTable.lookup?_eq_of_sorted (t : SymbolTable)
    (hs : t.fns.Pairwise fun f g => f.addr ≤ g.addr) (eip : UInt32) :
    t.lookup? eip = (lastFnAtOrBelow? t.fns eip).bind fun f =>
      if eip - f.addr < f.size then some ⟨f.file, f.lineOf eip, f.name, f.addr⟩ else none := by
  have hmono := closedDownward_of_sorted hs eip
  unfold SymbolTable.lookup? lastFnAtOrBelow?
  rw [partitionPoint_eq_length_filter hmono]
  rcases hn : (t.fns.filter fun f => f.addr ≤ eip).length with _ | n
  · rw [hn, getLast?_filter_of_length_zero hn]
    rfl
  · rw [hn, getLast?_filter hmono hn]
    have hlt : n < t.fns.length := by
      have := List.length_filter_le (fun f : FnSymbol => decide (f.addr ≤ eip)) t.fns
      omega
    -- the function found starts at or below `eip`, so containing it is the size check
    have hle : t.fns[n].addr ≤ eip := by
      have h := getElem_eq_decide_lt_length_filter hmono n hlt
      rw [hn] at h
      exact of_decide_eq_true (h.trans (decide_eq_true (Nat.lt_succ_self n)))
    simp only [List.getElem?_eq_getElem hlt, Option.bind_eq_bind, Option.bind_some,
      FnSymbol.contains, Bool.and_eq_true, decide_eq_true_eq, hle, true_and]

end Symbols

open SymbolTable in
/-- A table is accepted exactly when the addresses of its functions never decrease in list
order. On an accepted table, looking up `eip` finds an answer exactly when some function starts
at or below `eip` and the last such function in list order, `f`, holds `eip` within its size;
the answer then has `f`'s file, name and address, `eip`'s offset into `f`, below its size, and
the line of `eip` in `f`. On a line table sorted by address, that line is the line of the last
entry at or below `eip`, or the function's first line when there is none. -/
theorem lookup?_is_linear_scan (fns : List FnSymbol) :
    ((ofList? fns).isSome ↔ fns.Pairwise fun f g => f.addr ≤ g.addr) ∧
    (∀ t, ofList? fns = some t → ∀ eip info,
      t.lookup? eip = some info ↔ ∃ f, lastFnAtOrBelow? fns eip = some f ∧
        eip - f.addr < f.size ∧ info = ⟨f.file, f.lineOf eip, f.name, f.addr⟩ ∧
        info.offset eip < f.size) ∧
    ∀ (f : FnSymbol) eip, (f.lines.Pairwise fun a b => a.addr ≤ b.addr) →
      f.lineOf eip = f.scanLine eip := by
  refine ⟨?_, ?_, fun f eip hs => f.lineOf_eq_scanLine eip hs⟩
  · rw [Option.isSome_iff_exists]
    constructor
    · rintro ⟨t, ht⟩
      exact (ofList?_eq_some_iff.mp ht).1
    · intro hs
      exact ⟨⟨fns⟩, ofList?_eq_some_iff.mpr ⟨hs, rfl⟩⟩
  · intro t ht eip info
    obtain ⟨hs, rfl⟩ := ofList?_eq_some_iff.mp ht
    rw [t.lookup?_eq_of_sorted hs, Option.bind_eq_some_iff]
    constructor
    · rintro ⟨f, hf, hinfo⟩
      split at hinfo
      · rename_i hsize
        cases hinfo
        exact ⟨f, hf, hsize, rfl, hsize⟩
      · cases hinfo
    · rintro ⟨f, hf, hsize, rfl, -⟩
      exact ⟨f, hf, if_pos hsize⟩

/-- The table of `test_backtrace` and `i386_init`: `0xf0100076` lies in `test_backtrace`, on
line 16 of its sorted line table. -/
theorem lookup?_finds_test_backtrace :
    let tb : FnSymbol := ⟨"test_backtrace", "kern/init.c", 0xf0100040, 0x40, 13,
      [⟨0xf0100046, 14⟩, ⟨0xf0100069, 16⟩]⟩
    let init : FnSymbol := ⟨"i386_init", "kern/init.c", 0xf0100080, 0x60, 24, []⟩
    let info : EipInfo := ⟨"kern/init.c", tb.lineOf 0xf0100076, "test_backtrace", 0xf0100040⟩
    SymbolTable.ofList? [tb, init] = some ⟨[tb, init]⟩ ∧
      lastFnAtOrBelow? [tb, init] 0xf0100076 = some tb ∧
      (⟨[tb, init]⟩ : SymbolTable).lookup? 0xf0100076 = some info ∧
      (tb.lines.Pairwise fun a b => a.addr ≤ b.addr) ∧
      tb.lineOf 0xf0100076 = tb.scanLine 0xf0100076 ∧ tb.scanLine 0xf0100076 = 16 := by
  intro tb init info
  have hof : SymbolTable.ofList? [tb, init] = some ⟨[tb, init]⟩ := rfl
  have hlast : lastFnAtOrBelow? [tb, init] 0xf0100076 = some tb := rfl
  have hsorted : tb.lines.Pairwise fun a b => a.addr ≤ b.addr := by decide
  have h := lookup?_is_linear_scan [tb, init]
  exact ⟨hof, hlast, (h.2.1 _ hof 0xf0100076 info).mpr ⟨tb, hlast, by decide, rfl, by decide⟩,
    hsorted, h.2.2 tb 0xf0100076 hsorted, by decide⟩

end KernelMonitor
