import TxForge.Proofs.JsonSpelling

/-!
# What the reader does not take back

Two things that go wrong in a text stay wrong, whatever follows.

* Keys of the outermost object: what has been read of it is never forgotten, so that a key that is
  there twice is there twice in the end (`Json.Reader.keys_of_run`).
* Tokens where none is due.  Such a token can go on, but not come to an end
  (`Json.Reader.IsOverrun`).  So behind the end of the whole value there is room for blanks only
  (`Json.readAs?_append_eq_none`).
-/

set_option autoImplicit false

namespace TxForge
namespace Json

/-! ## The keys of the outermost object -/

/-- The keys of an open container so far, last first. -/
def Frame.keys : Frame → List Literal
  | .items .. => []
  | .member _ done key => key :: done.map (·.1)

/-- The keys of the outermost of some open containers, the innermost of which has the given ones. -/
def Frame.outer (keys : List Literal) : List Frame → List Literal
  | [] => keys
  | frame :: stack => outer frame.keys stack

/-- The keys of an object, last first. -/
def keys : Json → List Literal
  | .object members => (members.map (·.1)).reverse
  | _ => []

namespace Place

/-- The keys so far of the outermost object, last first.  There are none as long as the outermost
container is no object. -/
def keys : Place → List Literal
  | .value _ stack | .firstItem _ stack | .afterItem _ _ stack | .surplus _ stack
  | .closing _ stack | .firstKey _ stack => Frame.outer [] stack
  | .key _ done stack | .afterMember _ done stack => Frame.outer (done.map (·.1)) stack
  | .colon _ done name stack => Frame.outer (name :: done.map (·.1)) stack
  | .finished v => v.keys

variable {p p' : Place} {stack : List Frame}

theorem outer_suffix {ks ks' : List Literal} (h : ks <:+ ks') (stack : List Frame) :
    Frame.outer ks stack <:+ Frame.outer ks' stack := by
  cases stack with
  | nil => exact h
  | cons frame stack => exact List.suffix_refl _

/-- A value that ends keeps the keys that it has. -/
theorem outer_suffix_behind {ks : List Literal} {v : Json} (h : ks <:+ v.keys)
    (stack : List Frame) : Frame.outer ks stack <:+ (behind v stack).keys := by
  match stack with
  | [] => exact h
  | .items rest done :: stack => exact List.suffix_refl _
  | .member layout done name :: stack => exact List.suffix_refl _

theorem keys_of_scalar {v : Json} (h : p.scalar v = some p') : p.keys <:+ p'.keys := by
  cases p with
  | value layout stack =>
    cases h
    exact outer_suffix_behind List.nil_suffix stack
  | firstItem layout stack =>
    cases h
    exact List.suffix_refl _
  | _ => cases h

theorem keys_of_text {s : Literal} (h : p.text s = some p') : p.keys <:+ p'.keys := by
  cases p with
  | firstKey layout stack =>
    cases h
    exact outer_suffix List.nil_suffix stack
  | key layout done stack =>
    cases h
    exact outer_suffix (List.suffix_cons _ _) stack
  | _ => exact keys_of_scalar (v := .string s) h

theorem keys_of_next {rest : Layout} {done : List Json} :
    (next rest done stack).keys = Frame.outer [] stack := by
  rw [next]
  split <;> rfl

theorem keys_of_mark {c : Char} (h : p.mark c = some p') : p.keys <:+ p'.keys := by
  have hempty {v : Json} (stack : List Frame) : Frame.outer [] stack <:+ (behind v stack).keys :=
    outer_suffix_behind List.nil_suffix stack
  cases p with
  | value layout stack =>
    rw [mark] at h
    split_ifs at h <;> cases h <;> exact List.suffix_refl _
  | firstItem layout stack =>
    rw [mark] at h
    split_ifs at h <;> cases h
    · exact List.suffix_refl _
    · exact List.suffix_refl _
    · exact hempty stack
  | afterItem rest done stack =>
    rw [mark] at h
    split_ifs at h <;> cases h
    · rw [keys_of_next]
      exact List.suffix_refl _
    · exact hempty stack
  | surplus done stack =>
    rw [mark] at h
    split_ifs at h
    cases h
    exact hempty stack
  | closing done stack =>
    rw [mark] at h
    split_ifs at h
    cases h
    exact hempty stack
  | firstKey layout stack =>
    rw [mark] at h
    split_ifs at h
    cases h
    exact hempty stack
  | key => cases h
  | colon layout done name stack =>
    rw [mark] at h
    split_ifs at h
    cases h
    exact List.suffix_refl _
  | afterMember layout done stack =>
    rw [mark] at h
    split_ifs at h <;> cases h
    · exact List.suffix_refl _
    · exact outer_suffix_behind (by simp [Json.keys]) stack
  | finished => cases h

end Place

namespace Reader

variable {r r' : Reader} {c : Char} {text : List Char}

theorem keys_of_token {p : Place} (h : token p c = some r') : p.keys <:+ r'.place.keys := by
  unfold token at h
  split_ifs at h
  all_goals first
    | (cases h; exact List.suffix_refl _)
    | skip
  split at h
  · cases h
    exact List.suffix_refl _
  · obtain ⟨p', hp', rfl⟩ := Option.map_eq_some_iff.1 h
    exact Place.keys_of_mark hp'

theorem keys_of_fresh {p : Place} (h : fresh p c = some r') : p.keys <:+ r'.place.keys := by
  unfold fresh at h
  split at h
  · cases h
    exact List.suffix_refl _
  · split at h
    · split at h
      · cases h
        exact List.suffix_refl _
      · obtain ⟨p', hp', rfl⟩ := Option.map_eq_some_iff.1 h
        exact Place.keys_of_mark hp'
    · exact keys_of_token h

/-- One character forgets no key. -/
theorem keys_of_step (h : r.step c = some r') : r.place.keys <:+ r'.place.keys := by
  unfold step at h
  split at h
  · exact keys_of_fresh h
  · split at h
    · split at h
      · obtain ⟨p', hp', rfl⟩ := Option.map_eq_some_iff.1 h
        exact Place.keys_of_scalar hp'
      · cases h
        exact List.suffix_refl _
    · cases h
  · split at h
    · cases h
      exact List.suffix_refl _
    · split at h
      · obtain ⟨p', hp', h⟩ := Option.bind_eq_some_iff.1 h
        exact (Place.keys_of_scalar hp').trans (keys_of_fresh h)
      · cases h
  · split_ifs at h
    · obtain ⟨p', hp', rfl⟩ := Option.map_eq_some_iff.1 h
      exact Place.keys_of_text hp'
    · cases h
      exact List.suffix_refl _
    · cases h
      exact List.suffix_refl _
  · split at h
    · cases h
      exact List.suffix_refl _
    · obtain ⟨d, -, rfl⟩ := Option.map_eq_some_iff.1 h
      exact List.suffix_refl _
  · obtain ⟨d, -, rfl⟩ := Option.map_eq_some_iff.1 h
    split <;> exact List.suffix_refl _
  · split at h
    · cases h
      exact List.suffix_refl _
    · cases h
      exact List.suffix_refl _
    · exact keys_of_fresh h
    · cases h

/-- **No text makes the reader forget a key.** -/
theorem keys_of_run (h : r.run text = some r') : r.place.keys <:+ r'.place.keys := by
  induction text generalizing r with
  | nil =>
    cases h
    exact List.suffix_refl _
  | cons c text ih =>
    rw [run_cons] at h
    obtain ⟨next, hnext, hrest⟩ := Option.bind_eq_some_iff.1 h
    exact (keys_of_step hnext).trans (ih hrest)

/-- A value is read when the reader is at its end. -/
theorem isAt_of_result? {v : Json} (h : r.result? = some v) : r.IsAt (.finished v) := by
  obtain ⟨lexeme, place⟩ := r
  cases lexeme with
  | none =>
    dsimp only [result?] at h
    split at h
    · rename_i hplace
      cases hplace
      cases h
      exact .between _
    · cases h
  | number phase read =>
    dsimp only [result?] at h
    split at h
    · rename_i hplace
      cases h
      split_ifs at hplace with hcomplete
      exact .number hcomplete hplace
    · cases h
  | _ => cases h

/-- A value that has been read has the keys that were read. -/
theorem keys_of_result? {v : Json} (h : r.result? = some v) : r.place.keys <:+ v.keys := by
  cases isAt_of_result? h with
  | between => exact List.suffix_refl _
  | number _ hplace => exact Place.keys_of_scalar hplace

end Reader

/-- The value that is read of a text has all keys that are read of its front. -/
theorem keys_of_readAs? {layout : Layout} {text : String} {front rest : List Char} {p : Place}
    {v : Json} (htext : text.toList = front ++ rest)
    (hfront : (Reader.start layout).run front = some ⟨.none, p⟩)
    (h : readAs? layout text = some v) : p.keys <:+ v.keys := by
  obtain ⟨r, hrun, hresult⟩ := Option.bind_eq_some_iff.1 h
  rw [htext, Reader.run_append, hfront] at hrun
  exact (Reader.keys_of_run hrun).trans (Reader.keys_of_result? hresult)

/-! ## Tokens behind the end of a value -/

/-- Neither a value nor a key is taken at the place. -/
structure Place.TakesNone (p : Place) : Prop where
  scalar : ∀ v, p.scalar v = none
  text : ∀ s, p.text s = none

theorem Place.takesNone_finished (v : Json) : (Place.finished v).TakesNone :=
  ⟨fun _ => rfl, fun _ => rfl⟩

/-- Behind a value a comma or an end is due. -/
theorem Place.takesNone_behind (v : Json) (stack : List Frame) : (behind v stack).TakesNone := by
  match stack with
  | [] => exact takesNone_finished v
  | .items rest done :: stack => exact ⟨fun _ => rfl, fun _ => rfl⟩
  | .member layout done name :: stack => exact ⟨fun _ => rfl, fun _ => rfl⟩

theorem Place.isPlain_behind (v : Json) (stack : List Frame) : (behind v stack).IsPlain := by
  match stack with
  | [] => rintro done stack ⟨⟩
  | .items rest done :: stack => rintro done stack ⟨⟩
  | .member layout done name :: stack => rintro done stack ⟨⟩

namespace Reader

/-- A token has started, other than a surplus item. -/
def IsOpen : Lexeme → Prop
  | .none | .surplus _ => False
  | _ => True

/-- A token has started where none is taken. -/
structure IsOverrun (r : Reader) : Prop where
  place : r.place.TakesNone
  lexeme : IsOpen r.lexeme

variable {r r' : Reader} {c : Char} {text : List Char}

theorem isOverrun_of_fresh {p : Place} (hp : p.TakesNone) (hplain : p.IsPlain)
    (hc : isBlank c = false) (hmark : p.mark c = none) (h : fresh p c = some r) :
    r.IsOverrun := by
  rw [fresh_of_isPlain hplain hc, token, hmark] at h
  split_ifs at h
  case neg =>
    split at h
    · cases h
      exact ⟨hp, trivial⟩
    · cases h
  all_goals
    cases h
    exact ⟨hp, trivial⟩

/-- The token goes on or is refused. -/
theorem IsOverrun.step (h : r.IsOverrun) (hstep : r.step c = some r') : r'.IsOverrun := by
  obtain ⟨lexeme, place⟩ := r
  obtain ⟨hplace, hlexeme⟩ := h
  change place.TakesNone at hplace
  have hgoes {l : Lexeme} (hl : IsOpen l) : (⟨l, place⟩ : Reader).IsOverrun := ⟨hplace, hl⟩
  -- where the token ends, it is a value or a key, and neither is taken
  cases lexeme with
  | none => exact hlexeme.elim
  | surplus s => exact hlexeme.elim
  | word next rest w =>
    simp only [Reader.step, hplace.scalar] at hstep
    split_ifs at hstep
    cases rest with
    | nil => cases hstep
    | cons next' rest' =>
      cases hstep
      exact hgoes trivial
  | number phase read =>
    simp only [Reader.step, hplace.scalar] at hstep
    split at hstep
    · cases hstep
      exact hgoes trivial
    · split_ifs at hstep
      cases hstep
  | text read =>
    simp only [Reader.step, hplace.text] at hstep
    split_ifs at hstep <;> cases hstep
    · exact hgoes trivial
    · exact hgoes trivial
  | escape read =>
    simp only [Reader.step] at hstep
    split_ifs at hstep
    · cases hstep
      exact hgoes trivial
    · obtain ⟨d, -, rfl⟩ := Option.map_eq_some_iff.1 hstep
      exact hgoes trivial
  | unit read left value =>
    obtain ⟨d, -, rfl⟩ := Option.map_eq_some_iff.1 hstep
    cases left <;> exact hgoes trivial

theorem IsOverrun.run (h : r.IsOverrun) (hrun : r.run text = some r') : r'.IsOverrun := by
  induction text generalizing r with
  | nil =>
    cases hrun
    exact h
  | cons c text ih =>
    rw [run_cons] at hrun
    obtain ⟨next, hnext, hrest⟩ := Option.bind_eq_some_iff.1 hrun
    exact ih (h.step hnext) hrest

theorem IsOverrun.result?_eq (h : r.IsOverrun) : r.result? = none := by
  refine Option.eq_none_iff_forall_ne_some.2 fun v hresult => ?_
  obtain ⟨hplace, hlexeme⟩ := h
  cases isAt_of_result? hresult with
  | between => exact hlexeme
  | number _ hscalar =>
    rw [hplace.scalar] at hscalar
    cases hscalar

end Reader

/-- There is a first character that is not blank. -/
theorem exists_not_blank {text : List Char} (h : ¬ AreBlank text) :
    ∃ blanks c rest, text = blanks ++ c :: rest ∧ AreBlank blanks ∧ isBlank c = false := by
  induction text with
  | nil => exact (h nofun).elim
  | cons c text ih =>
    by_cases hc : isBlank c = true
    · obtain ⟨blanks, d, rest, rfl, hblanks, hd⟩ :=
        ih fun htext => h (List.forall_mem_cons.2 ⟨hc, htext⟩)
      exact ⟨c :: blanks, d, rest, rfl, List.forall_mem_cons.2 ⟨hc, hblanks⟩, hd⟩
    · exact ⟨[], c, text, rfl, nofun, by simpa using hc⟩

/-- **Behind the end of a value there is room for blanks only**, unless the value is a number, which
may go on. -/
theorem readAs?_append_eq_none {layout : Layout} {text rest : String} {v : Json}
    (h : readAs? layout text = some v) (hnumber : ∀ n, v ≠ .number n)
    (hrest : ¬ AreBlank rest.toList) : readAs? layout (text ++ rest) = none := by
  obtain ⟨r, hrun, hresult⟩ := Option.bind_eq_some_iff.1 h
  have hr : r = ⟨.none, .finished v⟩ := by
    cases Reader.isAt_of_result? hresult with
    | between => rfl
    | @number _ read place _ _ hplace =>
      -- a number that is all there is
      cases place with
      | value layout stack =>
        cases stack with
        | nil =>
          cases hplace
          exact (hnumber _ rfl).elim
        | cons frame stack => cases frame <;> cases hplace
      | _ => cases hplace
  obtain ⟨blanks, c, rest', hrest', hblanks, hc⟩ := exists_not_blank hrest
  rw [readAs?, String.toList_append, Reader.run_append, hrun, Option.bind_some, hr, hrest',
    Reader.run_append, run_blanks hblanks, Option.bind_some, Reader.run_cons]
  refine Option.eq_none_iff_forall_ne_some.2 fun w hw => ?_
  obtain ⟨last, hlast, hresult⟩ := Option.bind_eq_some_iff.1 hw
  obtain ⟨next, hnext, hlast⟩ := Option.bind_eq_some_iff.1 hlast
  have hover := Reader.isOverrun_of_fresh (Place.takesNone_finished v)
    (by rintro done stack ⟨⟩) hc rfl hnext
  rw [(hover.run hlast).result?_eq] at hresult
  cases hresult

end Json
end TxForge
