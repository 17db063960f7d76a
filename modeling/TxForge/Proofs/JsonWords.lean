import TxForge.Proofs.JsonRefusals

/-!
# Words and numbers

A text without blanks, quotes and marks has no structure for the reader, so whatever such a text is
like, it is read as one token where a value is due, or not at all.

* `Json.IsBare` — the characters of such a text.
* `Json.Reader.Reaches` — how far the reader can have come with one: `Reaches.step` says what one
  more character does, and `Reaches.exists_spells` that the text has to be that of a value when
  another character follows.
* `Json.exists_spells_of_bare` — so what is read is a word or a number of the grammar.
-/

set_option autoImplicit false

namespace TxForge
namespace Json

/-- The character has no meaning between two tokens, and it starts no string. -/
def IsBare (c : Char) : Prop :=
  isBlank c = false ∧ ¬ IsMark c ∧ c ≠ '"'

instance (c : Char) : Decidable (IsMark c) :=
  inferInstanceAs (Decidable (c ∈ _))

instance (c : Char) : Decidable (IsBare c) :=
  inferInstanceAs (Decidable (_ ∧ _))

/-- No other character goes on with a number. -/
theorem next?_of_not_isBare {c : Char} (hc : ¬ IsBare c) (phase : Number.Phase) :
    phase.next? c = none := by
  simp only [IsBare, isBlank, IsMark, List.mem_cons, List.not_mem_nil, or_false,
    Bool.or_eq_false_iff, beq_eq_false_iff_ne, not_and_or, not_not, ne_eq] at hc
  rcases hc with (((rfl | rfl) | rfl) | rfl) | (rfl | rfl | rfl | rfl | rfl | rfl) | rfl <;>
    cases phase <;> rfl

theorem mark_of_isBare {c : Char} (hc : IsBare c) (p : Place) : p.mark c = none := by
  have hne : ∀ d, IsMark d → c ≠ d := by
    rintro d hd rfl
    exact hc.2.1 hd
  have hbracket := hne '[' (by decide)
  have hend := hne ']' (by decide)
  have hbrace := hne '\x7b' (by decide)
  have hclose := hne '\x7d' (by decide)
  have hcomma := hne ',' (by decide)
  have hcolon := hne ':' (by decide)
  cases p <;> simp [Place.mark, hbracket, hend, hbrace, hclose, hcomma, hcolon]

namespace Reader

/-- How far the reader can have come with a text of bare characters, from a place where a value is
due: it is in a word or a number that begins there, or behind it, or in a token that is too many. -/
inductive Reaches (p : Place) (stack : List Frame) : List Char → Reader → Prop
  | word {read rest : List Char} {next : Char} {v : Json} (h : Spells (read ++ next :: rest) v)
    (hscalar : p.scalar v = some (Place.behind v stack)) (hbare : ∀ c ∈ next :: rest, IsBare c) :
    Reaches p stack read ⟨.word next rest v, p⟩
  | number {c : Char} {read : List Char} {start phase : Number.Phase}
    (hfirst : Number.Phase.first? c = some start)
    (hread : read.foldlM Number.Phase.next? start = some phase) :
    Reaches p stack (c :: read) ⟨.number phase (c :: read).reverse, p⟩
  | behind {read : List Char} {v : Json} (h : Spells read v) :
    Reaches p stack read ⟨.none, Place.behind v stack⟩
  | overrun {read : List Char} {r : Reader} (h : r.IsOverrun) : Reaches p stack read r

variable {p : Place} {layout : Layout} {stack : List Frame} {r r' : Reader} {c : Char}
  {text : List Char}

theorem isOverrun_of_bare {v : Json} (hc : IsBare c)
    (h : fresh (Place.behind v stack) c = some r) : r.IsOverrun :=
  isOverrun_of_fresh (Place.takesNone_behind v stack) (Place.isPlain_behind v stack) hc.1
    (mark_of_isBare hc _) h

/-- A bare character starts a word or a number. -/
theorem reaches_of_fresh (hp : p.Expects layout stack) (hc : IsBare c)
    (h : fresh p c = some r) : Reaches p stack [c] r := by
  rw [fresh_of_isPlain (Place.isPlain_of_scalar (hp.scalar_eq .null)) hc.1, token,
    if_neg hc.2.2, mark_of_isBare hc] at h
  split_ifs at h with hn ht hf
  · subst hn
    cases h
    exact @Reaches.word p stack ['n'] _ _ _ .null (hp.scalar_eq _) (by decide)
  · subst ht
    cases h
    exact @Reaches.word p stack ['t'] _ _ _ .true (hp.scalar_eq _) (by decide)
  · subst hf
    cases h
    exact @Reaches.word p stack ['f'] _ _ _ .false (hp.scalar_eq _) (by decide)
  · split at h
    · rename_i hfirst
      cases h
      exact .number hfirst rfl
    · cases h

/-- A bare character goes on with it, or is one too many. -/
theorem Reaches.step (hp : p.Expects layout stack) (h : Reaches p stack text r) (hc : IsBare c)
    (hstep : r.step c = some r') : Reaches p stack (text ++ [c]) r' := by
  cases h with
  | @word _ rest next v h hscalar hbare =>
    simp only [Reader.step] at hstep
    split_ifs at hstep with hnext
    subst hnext
    cases rest with
    | nil =>
      rw [hscalar] at hstep
      cases hstep
      exact .behind h
    | cons next' rest' =>
      cases hstep
      exact .word (by simpa using h) hscalar (List.forall_mem_cons.1 hbare).2
  | @number d read start phase hfirst hread =>
    simp only [Reader.step] at hstep
    split at hstep
    · rename_i phase' hphase'
      cases hstep
      have hgoes := @Reaches.number p stack d (read ++ [c]) start phase' hfirst
        (by rw [List.foldlM_append, hread]; simpa using hphase')
      simpa using hgoes
    · split_ifs at hstep
      rw [hp.scalar_eq] at hstep
      exact .overrun (isOverrun_of_bare hc hstep)
  | behind h => exact .overrun (isOverrun_of_bare hc hstep)
  | overrun h => exact .overrun (h.step hstep)

theorem Reaches.run {rest : List Char} (hp : p.Expects layout stack)
    (h : Reaches p stack text r) (hrest : ∀ c ∈ rest, IsBare c) (hrun : r.run rest = some r') :
    Reaches p stack (text ++ rest) r' := by
  induction rest generalizing text r with
  | nil =>
    cases hrun
    rwa [List.append_nil]
  | cons c rest ih =>
    obtain ⟨hc, hrest⟩ := List.forall_mem_cons.1 hrest
    rw [run_cons] at hrun
    obtain ⟨next, hnext, hrun⟩ := Option.bind_eq_some_iff.1 hrun
    simpa using ih (h.step hp hc hnext) hrest hrun

/-- Any other character ends it. -/
theorem Reaches.exists_spells (h : Reaches p stack text r) (hc : ¬ IsBare c)
    (hstep : r.step c = some r') : (∃ v, Spells text v) ∨ r'.IsOverrun := by
  cases h with
  | word h hscalar hbare =>
    simp only [Reader.step] at hstep
    split_ifs at hstep with hnext
    exact absurd (hnext ▸ (List.forall_mem_cons.1 hbare).1) hc
  | @number d read start phase hfirst hread =>
    simp only [Reader.step, next?_of_not_isBare hc] at hstep
    split_ifs at hstep with hcomplete
    obtain ⟨n, hn⟩ := Number.isLiteral_iff.1 ⟨d, read, start, phase, rfl, hfirst, hread, hcomplete⟩
    exact .inl ⟨_, .number hn⟩
  | behind h => exact .inl ⟨_, h⟩
  | overrun h => exact .inr (h.step hstep)

end Reader

/-- **A text of bare characters that is read where a value is due spells a word or a number.** -/
theorem exists_spells_of_bare {p : Place} {layout : Layout} {stack : List Frame}
    {text rest : List Char} {c : Char} {r : Reader} {v : Json} (hp : p.Expects layout stack)
    (hne : text ≠ []) (htext : ∀ c ∈ text, IsBare c) (hc : ¬ IsBare c)
    (hrun : (⟨.none, p⟩ : Reader).run (text ++ c :: rest) = some r)
    (hresult : r.result? = some v) : ∃ v, Spells text v := by
  obtain ⟨d, text, rfl⟩ := List.exists_cons_of_ne_nil hne
  obtain ⟨hd, htext⟩ := List.forall_mem_cons.1 htext
  rw [List.cons_append, Reader.run_cons] at hrun
  obtain ⟨first, hfirst, hrun⟩ := Option.bind_eq_some_iff.1 hrun
  rw [Reader.run_append] at hrun
  obtain ⟨last, hlast, hrun⟩ := Option.bind_eq_some_iff.1 hrun
  rw [Reader.run_cons] at hrun
  obtain ⟨next, hnext, hrun⟩ := Option.bind_eq_some_iff.1 hrun
  have hreaches := (Reader.reaches_of_fresh hp hd hfirst).run hp htext hlast
  refine (hreaches.exists_spells hc hnext).resolve_right fun hover => ?_
  rw [(hover.run hrun).result?_eq] at hresult
  cases hresult

end Json
end TxForge
