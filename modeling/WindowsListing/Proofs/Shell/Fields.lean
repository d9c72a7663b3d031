import WindowsListing.Commands
import Mathlib.Data.List.Basic

/-!
# Fields of a line

A line is cut at every space that stands outside quotation marks. The marks
are kept, and so are empty fields, so nothing of the line is lost. Texts that
are not cut themselves, joined by single spaces, are the fields of the line
they make. The argument written for a path without marks is such a text.
-/

set_option autoImplicit false

namespace WindowsListing.Shell

/-- The fields of a line, read on from inside quotation marks or not. -/
def fieldsFrom (inside : Bool) : List Char → List (List Char)
  | [] => [[]]
  | c :: cs =>
    if c = ' ' ∧ inside = false then [] :: fieldsFrom false cs
    else (fieldsFrom (if c = '"' then !inside else inside) cs).modifyHead (c :: ·)

def fields (cs : List Char) : List (List Char) := fieldsFrom false cs

/-- Whether a reader is inside quotation marks behind a text. -/
def insideAfter (inside : Bool) : List Char → Bool
  | [] => inside
  | c :: cs => insideAfter (if c = '"' then !inside else inside) cs

theorem fieldsFrom_ne_nil (inside : Bool) (cs : List Char) : fieldsFrom inside cs ≠ [] := by
  induction cs generalizing inside with
  | nil => simp [fieldsFrom]
  | cons c cs ih =>
    by_cases hc : c = ' ' ∧ inside = false
    · simp [fieldsFrom, hc]
    · simp [fieldsFrom, hc, ih]

theorem fields_space (rest : List Char) : fields (' ' :: rest) = [] :: fields rest := by
  simp [fields, fieldsFrom]

/-- A text that leaves no mark open, so that a space behind it cuts the line. -/
def Closed (cs : List Char) : Prop :=
  ∀ rest, fields (cs ++ ' ' :: rest) = fields cs ++ fields rest

theorem fields_intercalate (t : List Char) (ts : List (List Char))
    (h : ∀ u ∈ t :: ts, Closed u) :
    fields ([' '].intercalate (t :: ts)) = (t :: ts).flatMap fields := by
  induction ts generalizing t with
  | nil => simp
  | cons u us ih =>
    have hu : ∀ v ∈ u :: us, Closed v := fun v hv => h v (by simp [hv])
    rw [List.intercalate_cons_cons, List.append_assoc]
    change fields (t ++ ' ' :: [' '].intercalate (u :: us)) = _
    rw [h t (by simp), ih u hu]
    rfl

/-- A text that goes into one field with whatever follows it. -/
def Solid (cs : List Char) : Prop :=
  ∀ rest, fields (cs ++ rest) = (fields rest).modifyHead (cs ++ ·)

theorem solid_bare (cs : List Char) (hs : ' ' ∉ cs) (hq : '"' ∉ cs) : Solid cs := by
  intro rest
  induction cs with
  | nil =>
    obtain ⟨f, fs, hf⟩ := List.exists_cons_of_ne_nil (fieldsFrom_ne_nil false rest)
    simp [fields, hf]
  | cons c cs ih =>
    simp only [List.mem_cons, not_or] at hs hq
    have hrest := ih hs.2 hq.2
    simp only [fields] at hrest ⊢
    simp [fieldsFrom, Ne.symm hs.1, Ne.symm hq.1, hrest, Function.comp_def]

theorem fieldsFrom_inside (cs rest : List Char) (hq : '"' ∉ cs) :
    fieldsFrom true (cs ++ '"' :: rest) = (fields rest).modifyHead ((cs ++ ['"']) ++ ·) := by
  induction cs with
  | nil => simp [fieldsFrom, fields]
  | cons c cs ih =>
    simp only [List.mem_cons, not_or] at hq
    simp [fieldsFrom, Ne.symm hq.1, ih hq.2, Function.comp_def]

theorem solid_enclosed (cs : List Char) (hq : '"' ∉ cs) : Solid ('"' :: cs ++ ['"']) := by
  intro rest
  have h := fieldsFrom_inside cs rest hq
  simp only [fields] at h ⊢
  simp [fieldsFrom, h, Function.comp_def]

theorem fields_solid (cs : List Char) (h : Solid cs) : fields cs = [cs] := by
  have hn := h []
  simpa [fields, fieldsFrom] using hn

theorem closed_of_solid (cs : List Char) (h : Solid cs) : Closed cs := by
  intro rest
  rw [h, fields_space, fields_solid cs h]
  simp

def joined (ws : List String) : List Char := [' '].intercalate (ws.map String.toList)

theorem joined_cons_cons (v w : String) (ws : List String) :
    joined (v :: w :: ws) = v.toList ++ ' ' :: joined (w :: ws) := by
  simp [joined, List.intercalate_cons_cons]

theorem joined_append (v w : String) (vs ws : List String) :
    joined (v :: vs ++ w :: ws) = joined (v :: vs) ++ ' ' :: joined (w :: ws) := by
  induction vs generalizing v with
  | nil => simp [joined, List.intercalate_cons_cons]
  | cons u us ih =>
    have hu := ih u
    simp only [joined, List.cons_append, List.map_cons, List.intercalate_cons_cons] at hu ⊢
    rw [hu]
    simp

theorem fields_joined (w : String) (ws : List String) (h : ∀ v ∈ w :: ws, Closed v.toList) :
    fields (joined (w :: ws)) = (w :: ws).flatMap fun v => fields v.toList := by
  have hc : ∀ t ∈ (w :: ws).map String.toList, Closed t := by
    intro t ht
    obtain ⟨v, hv, rfl⟩ := List.mem_map.mp ht
    exact h v hv
  have hf := fields_intercalate w.toList (ws.map String.toList) hc
  rw [← List.map_cons, List.flatMap_map] at hf
  exact hf

theorem flatMap_fields_solid (ws : List String) (h : ∀ w ∈ ws, Solid w.toList) :
    (ws.flatMap fun w => fields w.toList) = ws.map String.toList := by
  induction ws with
  | nil => rfl
  | cons w ws ih =>
    rw [List.flatMap_cons, fields_solid _ (h w (by simp)), ih fun v hv => h v (by simp [hv])]
    rfl

theorem leading_inj {α : Type} (p : α → Prop) (xs ys rest other : List α)
    (hx : ∀ x ∈ xs, p x) (hy : ∀ y ∈ ys, p y) (hr : ∀ r ∈ rest.head?, ¬ p r)
    (ho : ∀ o ∈ other.head?, ¬ p o) (h : xs ++ rest = ys ++ other) : xs = ys ∧ rest = other := by
  induction xs generalizing ys with
  | nil =>
    cases ys with
    | nil => exact ⟨rfl, h⟩
    | cons y ys =>
      rw [List.nil_append] at h
      exact absurd (hy y (by simp)) (hr y (by simp [h]))
  | cons x xs ih =>
    cases ys with
    | nil =>
      rw [List.nil_append] at h
      exact absurd (hx x (by simp)) (ho x (by simp [← h]))
    | cons y ys =>
      obtain ⟨hxy, ht⟩ := List.cons.inj h
      obtain ⟨hs, hrest⟩ := ih ys (fun z hz => hx z (by simp [hz]))
        (fun z hz => hy z (by simp [hz])) ht
      exact ⟨by rw [hxy, hs], hrest⟩

theorem toList_enclose (text : String) (hq : '"' ∉ text.toList) :
    (Path.enclose text).toList =
      if ' ' ∈ text.toList then '"' :: text.toList ++ ['"'] else text.toList := by
  have hn : ¬ Path.Enclosed text.toList := fun he => hq (List.mem_of_mem_head? he.1)
  by_cases hs : ' ' ∈ text.toList
  · simp [Path.enclose, hs, hn]
  · simp [Path.enclose, hs]

theorem solid_enclose (text : String) (hq : '"' ∉ text.toList) :
    Solid (Path.enclose text).toList := by
  rw [toList_enclose text hq]
  by_cases hs : ' ' ∈ text.toList
  · rw [if_pos hs]
    exact solid_enclosed text.toList hq
  · rw [if_neg hs]
    exact solid_bare text.toList hs hq

theorem enclose_inj (text other : String) (ht : '"' ∉ text.toList) (ho : '"' ∉ other.toList)
    (h : Path.enclose text = Path.enclose other) : text = other := by
  have hl := congrArg String.toList h
  rw [toList_enclose text ht, toList_enclose other ho] at hl
  apply String.toList_inj.mp
  by_cases hs : ' ' ∈ text.toList <;> by_cases hr : ' ' ∈ other.toList
  · simpa [hs, hr] using hl
  · rw [if_pos hs, if_neg hr] at hl
    exact absurd (hl ▸ List.mem_cons_self) ho
  · rw [if_neg hs, if_pos hr] at hl
    exact absurd (hl ▸ List.mem_cons_self) ht
  · simpa [hs, hr] using hl

def Unmarked (paths : List String) : Prop := ∀ p ∈ paths, '"' ∉ p.toList

theorem quote_not_mem_toWindows (path : String) (hq : '"' ∉ path.toList) :
    '"' ∉ (Path.toWindows path).toList :=
  mt (Path.mem_toWindows '"' path (by decide) (by decide)).mp hq

theorem solid_argument (path : String) (hq : '"' ∉ path.toList) :
    Solid (Path.argument path).toList :=
  solid_enclose _ (quote_not_mem_toWindows path hq)

theorem arguments_eq_iff (paths others : List String) (hp : Unmarked paths)
    (ho : Unmarked others) :
    paths.map Path.argument = others.map Path.argument ↔
      paths.map Path.toWindows = others.map Path.toWindows := by
  constructor
  · intro h
    induction paths generalizing others with
    | nil =>
      cases others with
      | nil => rfl
      | cons o os => simp at h
    | cons p ps ih =>
      cases others with
      | nil => simp at h
      | cons o os =>
        simp only [List.map_cons, List.cons.injEq] at h
        have hhead := enclose_inj _ _ (quote_not_mem_toWindows p (hp p (by simp)))
          (quote_not_mem_toWindows o (ho o (by simp))) h.1
        have htail := ih os (fun q hq => hp q (by simp [hq])) (fun q hq => ho q (by simp [hq])) h.2
        simp [hhead, htail]
  · intro h
    have hcomp : Path.argument = Path.enclose ∘ Path.toWindows := by
      funext p
      rw [Path.argument, Function.comp]
    rw [hcomp, ← List.map_map, ← List.map_map, h]

end WindowsListing.Shell
