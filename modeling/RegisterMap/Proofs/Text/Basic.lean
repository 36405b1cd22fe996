import RegisterMap.Text.Basic

/-!
# Trimmed, split and cut text

Trimming keeps what has nothing to trim. Pieces have no separator (`pieces` is
`List.splitOn`), and texts that are each ended by a line feed are read back in
pieces (`lines_flatMap`). A text before a mark is cut off whole when the mark does not
begin inside it (`cut_append`, `cut_doubled`). What is read in two steps is taken
apart by `bind_eq_ok`.
-/

namespace RegisterMap.Text

variable {p : Char → Bool} {sep c m : Char} {s a mark word rest : Text} {ls : List Text}

/-! ## Trimming -/

theorem trimEndBy_sublist (p : Char → Bool) (s : Text) : (trimEndBy p s).Sublist s := by
  induction s with
  | nil => exact List.Sublist.refl _
  | cons c s ih =>
    unfold trimEndBy
    split
    · split
      · exact List.nil_sublist _
      · exact (List.nil_sublist s).cons_cons c
    · next d r h =>
      rw [h] at ih
      exact ih.cons_cons c

theorem append_trimEndBy (p : Char → Bool) (s : Text) :
    ∃ t, (∀ c ∈ t, p c = true) ∧ trimEndBy p s ++ t = s := by
  induction s with
  | nil => exact ⟨[], nofun, rfl⟩
  | cons c s ih =>
    obtain ⟨t, ht, hs⟩ := ih
    unfold trimEndBy
    split
    · next hn =>
      rw [hn, List.nil_append] at hs
      split
      · next hc => exact ⟨c :: s, by rw [List.forall_mem_cons]; exact ⟨hc, hs ▸ ht⟩, rfl⟩
      · exact ⟨s, hs ▸ ht, rfl⟩
    · next hn =>
      rw [hn] at hs
      exact ⟨t, ht, congrArg (c :: ·) hs⟩

theorem trimBy_sublist (p : Char → Bool) (s : Text) : (trimBy p s).Sublist s :=
  (trimEndBy_sublist p _).trans (List.dropWhile_sublist p)

theorem trimEndBy_eq_self (h : ∀ c, s.getLast? = some c → p c = false) : trimEndBy p s = s := by
  induction s with
  | nil => rfl
  | cons c s ih =>
    unfold trimEndBy
    cases s with
    | nil => simp [trimEndBy, h c rfl]
    | cons d s =>
      rw [ih fun e he => h e (by rwa [List.getLast?_cons_cons])]

theorem trimBy_eq_self (hh : ∀ c, s.head? = some c → p c = false)
    (hl : ∀ c, s.getLast? = some c → p c = false) : trimBy p s = s := by
  have hd : s.dropWhile p = s := by
    cases s with
    | nil => rfl
    | cons c s => rw [List.dropWhile_cons_of_neg (by simp [hh c rfl])]
  rw [trimBy, hd, trimEndBy_eq_self hl]

theorem trimEndBy_cons_of_neg (hc : p c = false) (s : Text) :
    trimEndBy p (c :: s) = c :: trimEndBy p s := by
  rw [trimEndBy]
  split
  · next h => rw [h, hc]; rfl
  · next h => rw [h]

theorem getLast?_trimEndBy (h : (trimEndBy p s).getLast? = some c) : p c = false := by
  induction s with
  | nil => cases h
  | cons d s ih =>
    unfold trimEndBy at h
    split at h
    · split at h
      · cases h
      · next hd => cases h; simpa using hd
    · next hs =>
      rw [List.getLast?_cons_cons] at h
      exact ih (hs ▸ h)

theorem trimEndBy_eq_nil_iff : trimEndBy p s = [] ↔ ∀ c ∈ s, p c = true := by
  induction s with
  | nil => exact iff_of_true rfl nofun
  | cons c s ih =>
    rw [trimEndBy, List.forall_mem_cons, ← ih]
    split
    · next h => simp [h]
    · next h => simp [h]

theorem head?_trimBy (h : (trimBy p s).head? = some c) : p c = false := by
  unfold trimBy at h
  cases hd : s.dropWhile p with
  | nil => rw [hd] at h; cases h
  | cons d t =>
    have hp : p d = false := by
      have := List.head?_dropWhile_not p s
      simpa [hd] using this
    rw [hd, trimEndBy_cons_of_neg hp] at h
    cases h
    exact hp

theorem trimBy_eq_nil_iff : trimBy p s = [] ↔ ∀ c ∈ s, p c = true := by
  rw [trimBy, trimEndBy_eq_nil_iff]
  constructor
  · intro h c hc
    rw [← List.takeWhile_append_dropWhile (p := p) (l := s), List.mem_append] at hc
    rcases hc with hc | hc
    · exact List.all_eq_true.mp List.all_takeWhile c hc
    · exact h c hc
  · exact fun h c hc => h c ((List.dropWhile_sublist p).subset hc)

theorem trimEndBy_append (ha : ∀ c ∈ a, p c = true) (s : Text) :
    trimEndBy p (s ++ a) = trimEndBy p s := by
  induction s with
  | nil => exact trimEndBy_eq_nil_iff.mpr ha
  | cons c s ih => rw [List.cons_append, trimEndBy, trimEndBy, ih]

/-- What is trimmed stands before and after what is kept. -/
theorem exists_trimBy (p : Char → Bool) (s : Text) : ∃ before after,
    (∀ c ∈ before, p c = true) ∧ (∀ c ∈ after, p c = true) ∧ before ++ trimBy p s ++ after = s := by
  obtain ⟨after, ha, hs⟩ := append_trimEndBy p (s.dropWhile p)
  refine ⟨s.takeWhile p, after, List.all_eq_true.mp List.all_takeWhile, ha, ?_⟩
  rw [trimBy, List.append_assoc, hs, List.takeWhile_append_dropWhile]

theorem trimBy_between {before after : Text} (hb : ∀ c ∈ before, p c = true)
    (ha : ∀ c ∈ after, p c = true) (hs : trimBy p s = s) :
    trimBy p (before ++ s ++ after) = s := by
  cases s with
  | nil =>
    refine trimBy_eq_nil_iff.mpr fun c hc => ?_
    rw [List.append_nil, List.mem_append] at hc
    exact hc.elim (hb c) (ha c)
  | cons c s =>
    have hc : p c = false := head?_trimBy (s := c :: s) (by rw [hs]; rfl)
    have hd : (c :: s).dropWhile p = c :: s := List.dropWhile_cons_of_neg (by simp [hc])
    rw [trimBy, hd] at hs
    rw [trimBy, List.append_assoc, List.dropWhile_append_of_pos hb, List.cons_append,
      List.dropWhile_cons_of_neg (by simp [hc]), ← List.cons_append, trimEndBy_append ha, hs]

/-! ## Pieces -/

theorem pieces_eq_splitOn (sep : Char) (s : Text) : pieces sep s = s.splitOn sep := by
  induction s with
  | nil => rfl
  | cons c s ih =>
    rw [List.splitOn_cons_eq_if_modifyHead, pieces, ih]
    simp only [beq_iff_eq]
    split
    · rfl
    · cases hs : s.splitOn sep with
      | nil => exact absurd hs (List.splitOn_ne_nil sep s)
      | cons q qs => rfl

theorem not_mem_of_mem_pieces {q : Text} (hq : q ∈ pieces sep s) : sep ∉ q := by
  induction s generalizing q with
  | nil => simp_all [pieces]
  | cons c s ih =>
    unfold pieces at hq
    split at hq
    · rcases List.mem_cons.mp hq with rfl | hq
      · simp
      · exact ih hq
    · next hc =>
      split at hq
      · simp_all [Ne.symm hc]
      · next p ps hp =>
        rw [hp] at ih
        rcases List.mem_cons.mp hq with rfl | hq
        · simpa [Ne.symm hc] using ih (List.mem_cons_self ..)
        · exact ih (List.mem_cons_of_mem _ hq)

theorem sublist_of_mem_pieces {q : Text} (hq : q ∈ pieces sep s) : q.Sublist s := by
  induction s generalizing q with
  | nil => simp_all [pieces]
  | cons c s ih =>
    unfold pieces at hq
    split at hq
    · rcases List.mem_cons.mp hq with rfl | hq
      · exact List.nil_sublist _
      · exact (ih hq).cons c
    · split at hq
      · simp_all
      · next p ps hp =>
        rw [hp] at ih
        rcases List.mem_cons.mp hq with rfl | hq
        · exact (ih (List.mem_cons_self ..)).cons_cons c
        · exact (ih (List.mem_cons_of_mem _ hq)).cons c

theorem pieces_of_not_mem (h : sep ∉ s) : pieces sep s = [s] := by
  rw [pieces_eq_splitOn, List.splitOn_eq_singleton h]

theorem pieces_cons_of_ne (hc : c ≠ sep) (s : Text) :
    ∃ q qs, pieces sep s = q :: qs ∧ pieces sep (c :: s) = (c :: q) :: qs := by
  cases h : pieces sep s with
  | nil => exact absurd (pieces_eq_splitOn sep s ▸ h) (List.splitOn_ne_nil sep s)
  | cons q qs => exact ⟨q, qs, rfl, by rw [pieces, if_neg hc, h]⟩

theorem pieces_append_cons (sep : Char) (s t : Text) :
    pieces sep (s ++ sep :: t) = pieces sep s ++ pieces sep t := by
  simp only [pieces_eq_splitOn, List.splitOn_append_cons_self]

/-- A text without separators goes to the last piece of the text before it. -/
theorem pieces_append (sep : Char) (s : Text) :
    ∃ init last, pieces sep s = init ++ [last] ∧
      ∀ a, sep ∉ a → pieces sep (s ++ a) = init ++ [last ++ a] := by
  induction s with
  | nil => exact ⟨[], [], rfl, fun _ ha => pieces_of_not_mem ha⟩
  | cons c s ih =>
    obtain ⟨init, last, hs, hsa⟩ := ih
    by_cases hc : c = sep
    · refine ⟨[] :: init, last, ?_, fun a ha => ?_⟩
      · rw [pieces, if_pos hc, hs]
        rfl
      · rw [List.cons_append, pieces, if_pos hc, hsa a ha]
        rfl
    · cases init with
      | nil =>
        refine ⟨[], c :: last, ?_, fun a ha => ?_⟩
        · rw [pieces, if_neg hc, hs]
          rfl
        · rw [List.cons_append, pieces, if_neg hc, hsa a ha]
          rfl
      | cons q qs =>
        refine ⟨(c :: q) :: qs, last, ?_, fun a ha => ?_⟩
        · rw [pieces, if_neg hc, hs]
          rfl
        · rw [List.cons_append, pieces, if_neg hc, hsa a ha]
          rfl

theorem getLast?_pieces (h : s.getLast? = some c) (hc : c ≠ sep) :
    ∃ l, (pieces sep s).getLast? = some l ∧ l.getLast? = some c := by
  obtain ⟨r, rfl⟩ := List.getLast?_eq_some_iff.mp h
  obtain ⟨init, last, -, hadd⟩ := pieces_append sep r
  refine ⟨last ++ [c], ?_, List.getLast?_concat⟩
  rw [hadd [c] (by simpa using hc.symm), List.getLast?_concat]

theorem pieces_flatMap (sep : Char) (ls : List Text) :
    pieces sep (ls.flatMap (· ++ [sep])) = ls.flatMap (pieces sep) ++ [[]] := by
  induction ls with
  | nil => rfl
  | cons l ls ih =>
    rw [List.flatMap_cons, List.append_assoc, List.singleton_append, pieces_append_cons, ih,
      List.flatMap_cons, List.append_assoc]

theorem pieces_join (h : ∀ l ∈ ls, sep ∉ l) (hn : ls ≠ []) : pieces sep (join [sep] ls) = ls := by
  fun_induction join [sep] ls with
  | case1 => exact absurd rfl hn
  | case2 l => exact pieces_of_not_mem (h l (List.mem_singleton_self l))
  | case3 l k ls ih =>
    obtain ⟨hl, hls⟩ := List.forall_mem_cons.mp h
    rw [List.append_assoc, List.singleton_append, pieces_append_cons, pieces_of_not_mem hl,
      ih hls (List.cons_ne_nil _ _), List.singleton_append]

theorem pieces_map {f : Char → Char} (hf : ∀ c, f c = sep ↔ c = sep) (s : Text) :
    pieces sep (s.map f) = (pieces sep s).map (·.map f) := by
  induction s with
  | nil => rfl
  | cons c s ih =>
    by_cases hc : c = sep
    · rw [List.map_cons, pieces, if_pos ((hf c).mpr hc), ih, pieces, if_pos hc]
      rfl
    · obtain ⟨q, qs, hp, hcons⟩ := pieces_cons_of_ne hc s
      rw [hp] at ih
      rw [hcons, List.map_cons, pieces, if_neg (mt (hf c).mp hc), ih]
      rfl

theorem join_pieces (sep : Char) (s : Text) : join [sep] (pieces sep s) = s := by
  induction s with
  | nil => rfl
  | cons c s ih =>
    by_cases hc : c = sep
    · cases hp : pieces sep s with
      | nil => exact absurd (pieces_eq_splitOn sep s ▸ hp) (List.splitOn_ne_nil sep s)
      | cons q qs =>
        rw [pieces, if_pos hc, hp, join, ← hp, ih, hc]
        rfl
    · obtain ⟨q, qs, hp, hcons⟩ := pieces_cons_of_ne hc s
      rw [hcons]
      rw [hp] at ih
      cases qs with
      | nil => exact congrArg (c :: ·) ih
      | cons r qs => exact congrArg (c :: ·) ih

/-! ## Lines -/

/-- Of texts that are each ended by a line feed the pieces are read back. -/
theorem lines_flatMap (ls : List Text) :
    lines (ls.flatMap (· ++ ['\n'])) = ls.flatMap (pieces '\n') := by
  have hp := pieces_flatMap '\n' ls
  unfold lines
  split
  · next hn => simp [hn] at hp
  · next q qs hq =>
    rw [hq] at hp
    simp [hp]

/-- A text that ends inside a line has its pieces as lines. -/
theorem lines_eq_pieces (h : s.getLast? = some c) (hc : c ≠ '\n') : lines s = pieces '\n' s := by
  obtain ⟨l, hl, hlc⟩ := getLast?_pieces h hc
  unfold lines
  split
  · next hn => exact hn.symm
  · next q qs hq =>
    rw [hq]
    refine if_neg fun hnil => ?_
    rw [hq, List.getLast?_eq_some_getLast (List.cons_ne_nil q qs), hnil] at hl
    cases hl
    cases hlc

theorem lines_join (h : ∀ l ∈ ls, '\n' ∉ l) (hn : ls.getLast? ≠ some []) :
    lines (join ['\n'] ls) = ls := by
  cases ls with
  | nil => rfl
  | cons l ls =>
    unfold lines
    rw [pieces_join h (List.cons_ne_nil l ls)]
    refine if_neg fun hl => hn ?_
    rw [List.getLast?_eq_some_getLast (List.cons_ne_nil l ls), hl]

theorem head?_join (h : s.head? = some c) (sep : Text) (ls : List Text) :
    (join sep (s :: ls)).head? = some c := by
  cases ls with
  | nil => exact h
  | cons l ls => rw [join, List.append_assoc, List.head?_append, h]; rfl

theorem getLast?_join (h : s.getLast? = some c) (hs : ls.getLast? = some s) (sep : Text) :
    (join sep ls).getLast? = some c := by
  fun_induction join sep ls with
  | case1 => cases hs
  | case2 l => cases hs; exact h
  | case3 l k ls ih =>
    rw [List.getLast?_cons_cons] at hs
    rw [List.getLast?_append, ih hs]
    rfl

theorem map_join (f : Char → Char) (sep : Text) (ls : List Text) :
    (join sep ls).map f = join (sep.map f) (ls.map (·.map f)) := by
  fun_induction join sep ls with
  | case1 => rfl
  | case2 l => rfl
  | case3 l k ls ih =>
    rw [List.map_append, List.map_append, ih]
    rfl

/-- What of a text does not stay on the line that it is put on: its further lines. -/
def overflow (s : Text) : List Text := (pieces '\n' s).tail

theorem overflow_append_cons (t : Text) (h : '\n' ∉ s) : overflow (s ++ '\n' :: t) = pieces '\n' t := by
  rw [overflow, pieces_append_cons, pieces_of_not_mem h]
  rfl

theorem overflow_of_not_mem (h : '\n' ∉ s) : overflow s = [] := by
  rw [overflow, pieces_of_not_mem h]
  rfl

theorem overflow_eq_nil : overflow s = [] ↔ '\n' ∉ s := by
  refine ⟨fun hs hm => ?_, overflow_of_not_mem⟩
  obtain ⟨b, t, rfl, hb⟩ := List.eq_append_cons_of_mem hm
  rw [overflow_append_cons t hb, pieces_eq_splitOn] at hs
  exact List.splitOn_ne_nil _ t hs

theorem pieces_append_left (s : Text) (h : '\n' ∉ a) :
    ∃ t, pieces '\n' (a ++ s) = (a ++ t) :: overflow s := by
  by_cases hm : '\n' ∈ s
  · obtain ⟨b, t, rfl, hb⟩ := List.eq_append_cons_of_mem hm
    refine ⟨b, ?_⟩
    rw [overflow_append_cons t hb, ← List.append_assoc, pieces_append_cons,
      pieces_of_not_mem (List.not_mem_append h hb), List.singleton_append]
  · exact ⟨s, by rw [overflow_of_not_mem hm, pieces_of_not_mem (List.not_mem_append h hm)]⟩

theorem overflow_append_left (s : Text) (h : '\n' ∉ a) : overflow (a ++ s) = overflow s := by
  obtain ⟨t, ht⟩ := pieces_append_left s h
  rw [overflow, ht, List.tail_cons]

/-- A text after it goes to the last line, when that is a further one. -/
theorem overflow_append_right (s : Text) :
    (overflow s = [] ∧ ∀ a, '\n' ∉ a → overflow (s ++ a) = []) ∨
      ∃ init last, overflow s = init ++ [last] ∧
        ∀ a, '\n' ∉ a → overflow (s ++ a) = init ++ [last ++ a] := by
  by_cases hm : '\n' ∈ s
  · obtain ⟨b, t, rfl, hb⟩ := List.eq_append_cons_of_mem hm
    obtain ⟨init, last, ht, hta⟩ := pieces_append '\n' t
    refine .inr ⟨init, last, ?_, fun a ha => ?_⟩
    · rw [overflow_append_cons t hb, ht]
    · rw [List.append_assoc, List.cons_append, overflow_append_cons _ hb, hta a ha]
  · exact .inl ⟨overflow_of_not_mem hm,
      fun a ha => overflow_of_not_mem (List.not_mem_append hm ha)⟩

theorem mem_pieces_of_mem_lines {l : Text} (h : l ∈ lines s) : l ∈ pieces '\n' s := by
  unfold lines at h
  split at h
  · cases h
  · next q qs hq =>
    rw [hq]
    split at h
    · exact List.dropLast_subset _ h
    · exact h

theorem not_mem_of_mem_lines {l : Text} (h : l ∈ lines s) : '\n' ∉ l :=
  not_mem_of_mem_pieces (mem_pieces_of_mem_lines h)

theorem not_mem_join {ps : List Text} (hs : c ∉ s) (h : ∀ q ∈ ps, c ∉ q) : c ∉ join s ps := by
  fun_induction join s ps with
  | case1 => simp
  | case2 q => exact h q (by simp)
  | case3 q r ps ih =>
    rw [List.mem_append, List.mem_append]
    rintro ((hc | hc) | hc)
    · exact h q (by simp) hc
    · exact hs hc
    · exact ih (fun k hk => h k (List.mem_cons_of_mem _ hk)) hc

/-! ## Marks -/

theorem after?_append (mark s : Text) : after? mark (mark ++ s) = some s := by
  induction mark with
  | nil => cases s <;> rfl
  | cons m mark ih => rw [List.cons_append, after?, if_pos rfl, ih]

theorem eq_append_of_after? (h : after? mark s = some a) : s = mark ++ a := by
  fun_induction after? mark s with
  | case1 => cases h; rfl
  | case2 => cases h
  | case3 mark c s ih => rw [ih h, List.cons_append]
  | case4 => cases h

theorem after?_eq_none : after? mark s = none ↔ ¬ mark <+: s := by
  constructor
  · rintro h ⟨r, rfl⟩
    rw [after?_append] at h
    cases h
  · intro h
    cases hr : after? mark s with
    | none => rfl
    | some r => exact absurd ⟨r, (eq_append_of_after? hr).symm⟩ h

/-- A word is taken off in any case of its letters. -/
theorem afterAnyCase?_eq_some_iff :
    afterAnyCase? word s = some rest ↔ ∃ tag, s = tag ++ rest ∧ tag.map Char.toLower = word := by
  induction word generalizing s with
  | nil => simp [afterAnyCase?, eq_comm]
  | cons w word ih =>
    cases s with
    | nil => simp [afterAnyCase?]
    | cons c s =>
      rw [afterAnyCase?]
      split
      · next hc =>
        rw [ih]
        constructor
        · rintro ⟨tag, rfl, rfl⟩
          exact ⟨c :: tag, rfl, by rw [List.map_cons, hc]⟩
        · rintro ⟨tag, hs, htag⟩
          obtain ⟨d, tag, rfl, hd, rfl⟩ := List.map_eq_cons_iff.mp htag
          obtain ⟨rfl, rfl⟩ := List.cons.inj hs
          exact ⟨tag, rfl, rfl⟩
      · next hc =>
        refine iff_of_false nofun ?_
        rintro ⟨tag, hs, htag⟩
        obtain ⟨d, tag, rfl, hd, rfl⟩ := List.map_eq_cons_iff.mp htag
        obtain ⟨rfl, rfl⟩ := List.cons.inj hs
        exact hc hd

/-- A character that is not of the mark ends the search for it. -/
theorem after?_append_cons_isSome (hc : c ∉ mark) (s t : Text) :
    (after? mark (s ++ c :: t)).isSome = (after? mark s).isSome := by
  fun_induction after? mark s with
  | case1 s => rw [after?]; rfl
  | case2 m mark =>
    rw [List.nil_append, after?, if_neg (Ne.symm (List.ne_of_not_mem_cons hc))]
  | case3 mark d s ih =>
    rw [List.cons_append, after?, if_pos rfl, ih (List.not_mem_of_not_mem_cons hc)]
  | case4 m mark d s hd => rw [List.cons_append, after?, if_neg hd]

theorem cut_mark (mark s : Text) : cut mark (mark ++ s) = some ([], s) := by
  have ha := after?_append mark s
  cases hs : mark ++ s with
  | nil =>
    rw [hs] at ha
    rw [cut, ha]
    rfl
  | cons c r =>
    rw [hs] at ha
    rw [cut, ha]

/-- A text is cut before a mark that does not begin inside it. -/
theorem cut_append (h : m ∉ a) : cut (m :: mark) (a ++ (m :: mark ++ s)) = some (a, s) := by
  induction a with
  | nil =>
    have := after?_append (m :: mark) s
    rw [List.nil_append, List.cons_append, cut, ← List.cons_append, this]
  | cons c a ih =>
    rw [List.mem_cons, not_or] at h
    rw [List.cons_append, cut, after?, if_neg h.1, ih h.2]
    rfl

/-- A text without a doubled character is cut before a mark of the two and one that differs. -/
theorem cut_doubled {e : Char} (h : ¬ [m, m] <:+: a) (he : m ≠ e) (s : Text) :
    cut [m, m, e] (a ++ ([m, m, e] ++ s)) = some (a, s) := by
  induction a with
  | nil => exact cut_mark _ s
  | cons c a ih =>
    have hnone : after? [m, m, e] (c :: (a ++ ([m, m, e] ++ s))) = none := by
      rw [after?_eq_none]
      intro hp
      obtain ⟨rfl, htail⟩ := List.cons_prefix_cons.mp hp
      cases a with
      | nil =>
        -- the mark would end in the first two characters of the one that follows
        exact he (List.cons_prefix_cons.mp (List.cons_prefix_cons.mp htail).2).1.symm
      | cons d a =>
        obtain ⟨rfl, -⟩ := List.cons_prefix_cons.mp htail
        exact h ⟨[], a, rfl⟩
    rw [List.cons_append, cut, hnone]
    simp only [ih fun hi => h (List.infix_cons hi), Option.map_some]

theorem cut_eq_none (h : m ∉ a) : cut (m :: mark) a = none := by
  induction a with
  | nil => rfl
  | cons c a ih =>
    rw [List.mem_cons, not_or] at h
    rw [cut, after?, if_neg h.1, ih h.2]
    rfl

end RegisterMap.Text

namespace RegisterMap

/-! ## Readers -/

/-- A result of two steps is that of the second on that of the first. -/
theorem bind_eq_ok {ε α β : Type} {x : Except ε α} {f : α → Except ε β} {b : β} :
    (x >>= f) = .ok b ↔ ∃ a, x = .ok a ∧ f a = .ok b := by
  cases x with
  | error e => simp [bind, Except.bind]
  | ok a => simp [bind, Except.bind]

end RegisterMap
