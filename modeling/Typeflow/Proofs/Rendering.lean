import Typeflow.Proofs.Arena.Closed
import Typeflow.Proofs.Text.Normal

/-!
Printed types can be told apart. A type is legible if nothing in it is open and its names are not
empty and hold none of the characters that a printed type sets between names. The printed form of
a legible type determines the type, also where more text follows, as long as a delimiter comes
first.
-/

namespace Typeflow

open Text

/-- A name that can stand in a printed type. -/
def Identifier.Legible (name : Identifier) : Prop :=
  name.text ≠ [] ∧ ∀ byte ∈ name.text, byte.toNat ∉ delimiters

instance (name : Identifier) : Decidable name.Legible := inferInstanceAs (Decidable (_ ∧ _))

/-- Names that are written with letters and digits are legible, in their normal form. -/
theorem Identifier.legible_ofCodes {codes : List Nat} (hne : codes ≠ [])
    (hcodes : ∀ code ∈ codes, IsScalar code ∧ Inert code) :
    (Identifier.ofText (ofCodes codes)).Legible := by
  unfold Identifier.ofText Identifier.Legible
  exact normalize_inert hne hcodes

theorem Identifier.legible_ofString {s : String} (hne : s.toList ≠ [])
    (h : (s.toList.all fun c => isInert (c.toNat, c.toNat)) = true) :
    (Identifier.ofString s).Legible := by
  have hutf8 : utf8 s = ofCodes (s.toList.map Char.toNat) := by
    simp [utf8, ofCodes, List.flatMap_map]
  unfold Identifier.ofString
  rw [hutf8]
  refine legible_ofCodes (by simpa using hne) fun code hcode => ?_
  obtain ⟨c, hc, rfl⟩ := List.mem_map.mp hcode
  exact ⟨c.valid, inert_of_isInert_self (List.all_eq_true.mp h c hc)⟩

/-- The text is empty or begins with a delimiter. -/
def Text.Breaks (text : Text) : Prop := ∀ byte ∈ text.head?, byte.toNat ∈ delimiters

theorem Text.breaks_nil : Breaks [] := by simp [Breaks]

theorem Text.breaks_cons {byte : UInt8} {rest : Text} (h : byte.toNat ∈ delimiters) :
    Breaks (byte :: rest) := by simpa [Breaks] using h

theorem Text.join_cons (separator first : Text) (more : List Text) :
    join separator (first :: more) = first ++ more.flatMap fun part => separator ++ part := by
  unfold join
  induction more generalizing first with
  | nil => simp [List.intercalate]
  | cons second more ih =>
    rw [List.flatMap_cons, List.append_assoc, ← ih second]
    simp [List.intercalate]

namespace Identifier.Legible

variable {name other : Identifier} {rest rest' : Text}

/-- A name reaches up to the first delimiter. -/
theorem takeWhile_append (h : name.Legible) (hrest : rest.Breaks) :
    (name.text ++ rest).takeWhile (fun byte => decide (byte.toNat ∉ delimiters)) = name.text := by
  apply takeWhile_append_of_head
  · exact fun byte hbyte => decide_eq_true (h.2 byte hbyte)
  · exact fun byte hbyte => decide_eq_false fun hnot => hnot (hrest byte hbyte)

theorem determined (h : name.Legible) (hother : other.Legible) (hrest : rest.Breaks)
    (hrest' : rest'.Breaks) (heq : name.text ++ rest = other.text ++ rest') :
    name = other ∧ rest = rest' := by
  have htext : name.text = other.text := by
    rw [← h.takeWhile_append hrest, heq, hother.takeWhile_append hrest']
  rw [htext] at heq
  obtain ⟨text⟩ := name
  obtain ⟨text'⟩ := other
  exact ⟨congrArg _ htext, List.append_cancel_left heq⟩

theorem append_ne_cons (h : name.Legible) {byte : UInt8} (hbyte : byte.toNat ∈ delimiters) :
    name.text ++ rest ≠ byte :: rest' := by
  obtain ⟨first, tail, htext⟩ := List.exists_cons_of_ne_nil h.1
  intro heq
  rw [htext, List.cons_append] at heq
  obtain ⟨rfl, -⟩ := List.cons.inj heq
  exact h.2 first (htext ▸ List.mem_cons_self) hbyte

end Identifier.Legible

namespace Ty

mutual

def names : Ty → List Identifier
  | .name n => [n]
  | .fn params result => namesList params ++ result.names
  | _ => []

def namesList : List Ty → List Identifier
  | [] => []
  | ty :: rest => ty.names ++ namesList rest

end

theorem mem_namesList {name : Identifier} {types : List Ty} :
    name ∈ namesList types ↔ ∃ ty ∈ types, name ∈ ty.names := by
  induction types with
  | nil => simp [namesList]
  | cons ty rest ih => simp [namesList, ih]

/-- The type has no variables and no empty places, and its names are legible. -/
def Legible (ty : Ty) : Prop := ty.Closed ∧ ∀ name ∈ ty.names, name.Legible

instance (ty : Ty) : Decidable ty.Legible := inferInstanceAs (Decidable (_ ∧ _))

theorem legible_name {name : Identifier} : (Ty.name name).Legible ↔ name.Legible := by
  simp [Legible, names, Closed, vars, nilFree]

theorem legible_fn {params : List Ty} {result : Ty} :
    (Ty.fn params result).Legible ↔ (∀ p ∈ params, p.Legible) ∧ result.Legible := by
  unfold Legible
  simp only [closed_fn, names, List.mem_append, mem_namesList]
  constructor
  · intro h
    obtain ⟨⟨hparams, hresult⟩, hnames⟩ := h
    refine ⟨fun p hp => ⟨hparams p hp, fun name hname => ?_⟩, hresult, fun name hname => ?_⟩
    · exact hnames name (Or.inl ⟨p, hp, hname⟩)
    · exact hnames name (Or.inr hname)
  · intro h
    obtain ⟨hparams, hresult⟩ := h
    refine ⟨⟨fun p hp => (hparams p hp).1, hresult.1⟩, fun name hname => ?_⟩
    rcases hname with ⟨p, hp, hname⟩ | hname
    · exact (hparams p hp).2 name hname
    · exact hresult.2 name hname

theorem legible_unresolvable : Ty.unresolvable.Legible := by decide

def renderAfter (params : List Ty) : Text :=
  params.flatMap fun param => 0x2c :: 0x20 :: param.render

def renderParams : List Ty → Text
  | [] => []
  | first :: more => first.render ++ renderAfter more

theorem renderList_eq_map (types : List Ty) : renderList types = types.map render := by
  induction types with
  | nil => rfl
  | cons ty rest ih => rw [renderList, ih, List.map_cons]

theorem render_fn (params : List Ty) (result : Ty) : (Ty.fn params result).render =
    0x28 :: (renderParams params ++ 0x29 :: (utf8 " -> " ++ result.render)) := by
  have hopen : utf8 "(" = [0x28] := by decide
  have hcomma : utf8 ", " = [0x2c, 0x20] := by decide
  have harrow : utf8 ") -> " = 0x29 :: utf8 " -> " := by decide
  rw [render, renderList_eq_map, hopen, hcomma, harrow]
  cases params with
  | nil => rfl
  | cons first more =>
    rw [List.map_cons, join_cons, List.flatMap_map]
    simp [renderParams, renderAfter]

theorem render_unresolvable : Ty.unresolvable.render = 0x3c :: utf8 "unresolvable>" := by
  decide

/-- The printed form determines the type, also where more text follows. -/
def Determined (ty : Ty) : Prop :=
  ∀ (other : Ty) (rest rest' : Text), other.Legible → rest.Breaks → rest'.Breaks →
    ty.render ++ rest = other.render ++ rest' → ty = other ∧ rest = rest'

theorem render_ne_close {ty : Ty} (h : ty.Legible) {rest rest' : Text} :
    ty.render ++ rest ≠ 0x29 :: rest' := by
  cases ty with
  | name n => exact (legible_name.mp h).append_ne_cons (by decide)
  | var v => exact absurd h.1 (not_closed_var v)
  | fn params result => simp [render_fn]
  | unresolvable => simp [render_unresolvable]
  | absent => exact absurd h.1 not_closed_absent

theorem breaks_renderAfter (params : List Ty) (rest : Text) :
    (renderAfter params ++ 0x29 :: rest).Breaks := by
  cases params with
  | nil => exact breaks_cons (by decide)
  | cons ty types => exact breaks_cons (by decide)

/-- The parameters after the first one are determined up to the closing bracket. -/
theorem renderAfter_determined {more others : List Ty} {rest rest' : Text}
    (hmore : ∀ p ∈ more, Determined p) (hlegible : ∀ p ∈ others, p.Legible)
    (h : renderAfter more ++ 0x29 :: rest = renderAfter others ++ 0x29 :: rest') :
    more = others ∧ rest = rest' := by
  induction more generalizing others with
  | nil =>
    cases others with
    | nil => exact ⟨rfl, by simpa [renderAfter] using h⟩
    | cons other others => simp [renderAfter] at h
  | cons ty more ih =>
    obtain ⟨hty, hmore⟩ := List.forall_mem_cons.mp hmore
    cases others with
    | nil => simp [renderAfter] at h
    | cons other others =>
      obtain ⟨hother, hothers⟩ := List.forall_mem_cons.mp hlegible
      have hsame : ty.render ++ (renderAfter more ++ 0x29 :: rest) =
          other.render ++ (renderAfter others ++ 0x29 :: rest') := by
        simpa [renderAfter] using h
      obtain ⟨rfl, htail⟩ :=
        hty other _ _ hother (breaks_renderAfter _ _) (breaks_renderAfter _ _) hsame
      obtain ⟨rfl, hrest⟩ := ih hmore hothers htail
      exact ⟨rfl, hrest⟩

theorem renderParams_determined {params others : List Ty} {rest rest' : Text}
    (hparams : ∀ p ∈ params, p.Legible ∧ Determined p) (hothers : ∀ p ∈ others, p.Legible)
    (h : renderParams params ++ 0x29 :: rest = renderParams others ++ 0x29 :: rest') :
    params = others ∧ rest = rest' := by
  cases params with
  | nil =>
    cases others with
    | nil => exact ⟨rfl, by simpa [renderParams] using h⟩
    | cons other others =>
      rw [renderParams, renderParams, List.append_assoc] at h
      exact absurd h.symm (render_ne_close (List.forall_mem_cons.mp hothers).1)
  | cons first more =>
    obtain ⟨hfirst, hmore⟩ := List.forall_mem_cons.mp hparams
    cases others with
    | nil =>
      rw [renderParams, renderParams, List.append_assoc] at h
      exact absurd h (render_ne_close hfirst.1)
    | cons other others =>
      rw [renderParams, renderParams, List.append_assoc, List.append_assoc] at h
      obtain ⟨hother, hlegible⟩ := List.forall_mem_cons.mp hothers
      obtain ⟨rfl, htail⟩ :=
        hfirst.2 other _ _ hother (breaks_renderAfter _ _) (breaks_renderAfter _ _) h
      obtain ⟨rfl, hrest⟩ :=
        renderAfter_determined (fun p hp => (hmore p hp).2) hlegible htail
      exact ⟨rfl, hrest⟩

theorem determined {ty : Ty} (h : ty.Legible) : Determined ty := by
  induction ty using inductionOn with
  | name n =>
    intro other rest rest' hother hrest hrest' heq
    have hn := legible_name.mp h
    cases other with
    | name m =>
      obtain ⟨rfl, rfl⟩ := hn.determined (legible_name.mp hother) hrest hrest' heq
      exact ⟨rfl, rfl⟩
    | var v => exact absurd hother.1 (not_closed_var v)
    | fn params result => exact absurd heq (hn.append_ne_cons (by decide))
    | unresolvable => exact absurd heq (hn.append_ne_cons (by decide))
    | absent => exact absurd hother.1 not_closed_absent
  | var v => exact absurd h.1 (not_closed_var v)
  | fn params result hparams hresult =>
    intro other rest rest' hother hrest hrest' heq
    obtain ⟨hlegible, hout⟩ := legible_fn.mp h
    cases other with
    | name m => exact absurd heq.symm ((legible_name.mp hother).append_ne_cons (by decide))
    | var v => exact absurd hother.1 (not_closed_var v)
    | fn params' result' =>
      obtain ⟨hlegible', hout'⟩ := legible_fn.mp hother
      simp only [render_fn, List.cons_append, List.append_assoc, List.cons.injEq, true_and] at heq
      obtain ⟨rfl, htail⟩ := renderParams_determined
        (fun p hp => ⟨hlegible p hp, hparams p hp (hlegible p hp)⟩) hlegible' heq
      obtain ⟨rfl, rfl⟩ := hresult hout result' rest rest' hout' hrest hrest'
        (List.append_cancel_left htail)
      exact ⟨rfl, rfl⟩
    | unresolvable => simp [render_fn, render_unresolvable] at heq
    | absent => exact absurd hother.1 not_closed_absent
  | unresolvable =>
    intro other rest rest' hother hrest hrest' heq
    cases other with
    | name m => exact absurd heq.symm ((legible_name.mp hother).append_ne_cons (by decide))
    | var v => exact absurd hother.1 (not_closed_var v)
    | fn params result => simp [render_fn, render_unresolvable] at heq
    | unresolvable => exact ⟨rfl, List.append_cancel_left heq⟩
    | absent => exact absurd hother.1 not_closed_absent
  | absent => exact absurd h.1 not_closed_absent

theorem eq_of_render_eq {ty other : Ty} (h : ty.Legible) (hother : other.Legible)
    (heq : ty.render = other.render) : ty = other :=
  (determined h other [] [] hother breaks_nil breaks_nil (by simpa using heq)).1

end Ty

end Typeflow
