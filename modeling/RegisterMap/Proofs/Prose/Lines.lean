import RegisterMap.Proofs.Prose.Tables
import RegisterMap.Proofs.Text.Returns

/-!
# Documentation lines in normal form

Documentation lines have no line end in them and no white space at their ends,
the first begins with no white space, and the last is not empty (`Normal`).
Lines in normal form, joined again, are their own documentation lines, unless
a table block comes together between them (`docLines_normal`).
-/

namespace RegisterMap.Prose

open Text

variable {c : Char} {s : Text} {ls : List Text}

/-! ## Steps -/

theorem not_mem_unifyLineEnds (s : Text) : '\r' ∉ unifyLineEnds s := by
  fun_induction unifyLineEnds s with
  | case1 => exact List.not_mem_nil
  | case2 s ih => simpa using ih
  | case3 c s _ ih =>
    rw [List.mem_cons, not_or]
    refine ⟨?_, ih⟩
    split
    · decide
    · next hc => exact Ne.symm hc

theorem unifyLineEnds_of_not_mem (h : '\r' ∉ s) : unifyLineEnds s = s := by
  induction s with
  | nil => rfl
  | cons c s ih =>
    obtain ⟨hc, hs⟩ := not_or.mp (mt List.mem_cons.mpr h)
    rw [unifyLineEnds_cons (.inl (Ne.symm hc)), if_neg (Ne.symm hc), ih hs]

theorem dropTables_sublist (s : Text) : (dropTables s).Sublist s := by
  fun_induction dropTables s with
  | case1 => exact List.Sublist.refl _
  | case2 c s rest h ih =>
    obtain ⟨b, hs, -⟩ := afterBlock?_eq_some_iff.mp h
    rw [hs]
    exact ih.trans (List.sublist_append_right b rest)
  | case3 c s _ ih => exact ih.cons_cons c

/-! ## Normal forms -/

/-- The form that documentation lines have. -/
structure Normal (ls : List Text) : Prop where
  /-- No line has a line end in it. -/
  oneLine : ∀ l ∈ ls, OneLine l
  /-- No line ends in white space. -/
  trimmed : ∀ l ∈ ls, ∀ c, l.getLast? = some c → isBlank c = false
  /-- The first line begins with a character that is no white space. -/
  first : ∀ l, ls.head? = some l → ∃ c, l.head? = some c ∧ isBlank c = false
  /-- The last line is not empty. -/
  last : ls.getLast? ≠ some []

/-- What the documentation lines are the lines of. -/
def body (s : Text) : Text := trim (dropTables (unifyLineEnds s))

theorem docLines_eq (s : Text) : docLines s = (lines (body s)).map trimEnd := rfl

theorem not_mem_body (s : Text) : '\r' ∉ body s := fun h =>
  not_mem_unifyLineEnds s ((dropTables_sublist _).subset ((trimBy_sublist _ _).subset h))

theorem body_eq_nil_iff : body s = [] ↔ ∀ c ∈ dropTables (unifyLineEnds s), isBlank c = true :=
  trimBy_eq_nil_iff

theorem ne_feed_of_not_isBlank (h : isBlank c = false) : c ≠ '\n' := by
  rintro rfl
  exact absurd h (by decide)

/-- The first line begins and the last line ends with a character that is no white space. -/
theorem docLines_ends (h : body s ≠ []) : ∃ first last c d,
    (docLines s).head? = some first ∧ first.head? = some c ∧ isBlank c = false ∧
      (docLines s).getLast? = some last ∧ last.getLast? = some d ∧ isBlank d = false := by
  have hhead := List.head?_eq_some_head h
  have hlast := List.getLast?_eq_some_getLast h
  generalize (body s).head h = c at hhead
  generalize (body s).getLast h = d at hlast
  have hc : isBlank c = false := head?_trimBy hhead
  have hd : isBlank d = false := getLast?_trimEndBy hlast
  rw [docLines_eq, lines_eq_pieces hlast (ne_feed_of_not_isBlank hd)]
  obtain ⟨l, hl, hld⟩ := getLast?_pieces hlast (ne_feed_of_not_isBlank hd)
  obtain ⟨t, ht⟩ := List.head?_eq_some_iff.mp hhead
  obtain ⟨q, qs, -, hq⟩ := pieces_cons_of_ne (ne_feed_of_not_isBlank hc) t
  refine ⟨c :: trimEnd q, l, c, d, ?_, rfl, hc, ?_, hld, hd⟩
  · rw [ht, hq, List.map_cons, List.head?_cons, trimEnd, trimEndBy_cons_of_neg hc]
    rfl
  · have hself : trimEnd l = l := trimEndBy_eq_self fun e he => by
      cases hld.symm.trans he
      exact hd
    rw [List.getLast?_map, hl, Option.map_some, hself]

theorem docLines_of_body (h : body s = []) : docLines s = [] := by
  rw [docLines_eq, h]
  rfl

theorem docLines_eq_nil_iff :
    docLines s = [] ↔ ∀ c ∈ dropTables (unifyLineEnds s), isBlank c = true := by
  rw [← body_eq_nil_iff]
  refine ⟨fun h => ?_, docLines_of_body⟩
  by_contra hbody
  obtain ⟨first, -, -, -, hfirst, -⟩ := docLines_ends hbody
  rw [h] at hfirst
  cases hfirst

theorem normal_docLines (s : Text) : Normal (docLines s) := by
  refine ⟨fun l hl => ?_, fun l hl c hc => ?_, fun l hl => ?_, fun hnil => ?_⟩
  · obtain ⟨k, hk, rfl⟩ := List.mem_map.mp hl
    have hsub := trimEndBy_sublist isBlank k
    refine ⟨fun hn => not_mem_of_mem_lines hk (hsub.subset hn), fun hr => not_mem_body s ?_⟩
    exact (sublist_of_mem_pieces (mem_pieces_of_mem_lines hk)).subset (hsub.subset hr)
  · obtain ⟨k, -, rfl⟩ := List.mem_map.mp hl
    exact getLast?_trimEndBy hc
  · by_cases h : body s = []
    · rw [docLines_of_body h] at hl
      cases hl
    · obtain ⟨first, -, c, -, hfirst, hc, hblank, -⟩ := docLines_ends h
      cases hfirst.symm.trans hl
      exact ⟨c, hc, hblank⟩
  · by_cases h : body s = []
    · rw [docLines_of_body h] at hnil
      cases hnil
    · obtain ⟨-, last, -, d, -, -, -, hlast, hd, -⟩ := docLines_ends h
      cases hlast.symm.trans hnil
      cases hd

theorem Normal.trim_join (h : Normal ls) : trim (join ['\n'] ls) = join ['\n'] ls := by
  cases ls with
  | nil => rfl
  | cons l ls =>
    obtain ⟨c, hc, hblank⟩ := h.first l rfl
    have hlast := List.getLast?_eq_some_getLast (List.cons_ne_nil l ls)
    generalize (l :: ls).getLast (List.cons_ne_nil l ls) = last at hlast
    have hne : last ≠ [] := fun hnil => h.last (hnil ▸ hlast)
    have hend := List.getLast?_eq_some_getLast hne
    refine trimBy_eq_self (fun e he => ?_) fun e he => ?_
    · rw [head?_join hc] at he
      cases he
      exact hblank
    · rw [getLast?_join hend hlast] at he
      exact h.trimmed last (List.mem_of_getLast? hlast) e (hend.trans he)

/-- Lines in normal form are the documentation lines of themselves. -/
theorem Normal.docLines_join (h : Normal ls) (hb : ¬ HasBlock (join ['\n'] ls)) :
    docLines (join ['\n'] ls) = ls := by
  have hreturn : '\r' ∉ join ['\n'] ls := not_mem_join (by decide) fun l hl => (h.oneLine l hl).2
  have hbody : body (join ['\n'] ls) = join ['\n'] ls := by
    rw [body, unifyLineEnds_of_not_mem hreturn, dropTables_of_not_hasBlock hb, h.trim_join]
  have hself : ∀ l ∈ ls, trimEnd l = l := fun l hl => trimEndBy_eq_self (h.trimmed l hl)
  rw [docLines_eq, hbody, lines_join (fun l hl => (h.oneLine l hl).1) h.last,
    List.map_congr_left hself, List.map_id']

/-- Documentation lines are in normal form. There are none exactly if nothing but white space is
left of the text, line ends unified and tables dropped; and if they have no table block when joined
again, they are the documentation lines of that. -/
theorem docLines_normal (s : Text) :
    Normal (docLines s) ∧
    (docLines s = [] ↔ ∀ c ∈ dropTables (unifyLineEnds s), isBlank c = true) ∧
    (¬ HasBlock (join ['\n'] (docLines s)) → docLines (join ['\n'] (docLines s)) = docLines s) :=
  ⟨normal_docLines s, docLines_eq_nil_iff, (normal_docLines s).docLines_join⟩

/-- A table between two lines, line ends of each kind, and an opening tag that nothing closes. -/
def ragged : Text := "\r\n \u0085a <TABLE>\r</table\n>\u3000\r\rb<table \r\n".toList

theorem docLines_normal_ragged :
    docLines ragged = ["a".toList, [], "b<table".toList] ∧
      ¬ HasBlock (join ['\n'] (docLines ragged)) ∧
      docLines (join ['\n'] (docLines ragged)) = docLines ragged := by
  have hb : ¬ HasBlock (join ['\n'] (docLines ragged)) := by decide +kernel
  exact ⟨by decide +kernel, hb, (docLines_normal ragged).2.2 hb⟩

end RegisterMap.Prose
