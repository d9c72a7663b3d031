import WindowsListing.Alias
import Mathlib.Data.List.Basic
import Mathlib.Data.List.TakeWhile

/-!
# The name a program is called by

The alias of a program is found in the last part of its path alone. Whatever
stands in front of the last separator, of either kind, has no part in it,
unless the path begins with two separators and so names a host. An alias is
written in letters of either case, with an extension or without.
-/

set_option autoImplicit false

namespace WindowsListing
open WindowsListing.Text

def separators : List Char := ['/', '\\']

/-- A text that can be the last part of a path, and is no path of its own. -/
def PlainName (name : String) : Prop :=
  name ≠ "" ∧ name ≠ "." ∧ ∀ c ∈ ':' :: separators, c ∉ name.toList

def BeginsDoubled (cs : List Char) : Prop :=
  ∃ a ∈ separators, ∃ b ∈ separators, ∃ rest, cs = a :: b :: rest

def lowered (name : String) : List Char := name.toList.map Char.toLower

/-- A name that spells the given one in letters of either case, alone or in
front of an extension. -/
def Spells (name base : String) : Prop :=
  lowered name = base.toList ∨
    ∃ extension, extension ≠ [] ∧ '.' ∉ extension ∧
      lowered name = base.toList ++ '.' :: extension

theorem relative_eq_afterDrive (cs : List Char) (h : ∀ rest, cs ≠ '\\' :: '\\' :: rest) :
    Path.relative cs = Path.afterDrive cs := by
  have hplain : Path.unextended cs = cs := by
    unfold Path.unextended
    split
    · exact absurd rfl (h _)
    · exact absurd rfl (h _)
    · rfl
  have hshare : Path.afterShare? cs = none := by
    unfold Path.afterShare?
    split
    · exact absurd rfl (h _)
    · rfl
  rw [Path.relative, hplain, hshare]
  rfl

theorem afterDrive_cases (cs : List Char) :
    Path.afterDrive cs = cs ∨
      ∃ letter, letter.isAlpha = true ∧ cs = letter :: ':' :: Path.afterDrive cs := by
  unfold Path.afterDrive
  split
  · next letter rest =>
    cases hl : letter.isAlpha with
    | true => exact Or.inr ⟨letter, hl, rfl⟩
    | false => exact Or.inl rfl
  · exact Or.inl rfl

theorem afterDrive_append (front name : List Char) :
    ∃ rest, Path.afterDrive (front ++ '\\' :: name) = rest ++ '\\' :: name := by
  rcases afterDrive_cases (front ++ '\\' :: name) with h | ⟨letter, hl, h⟩
  · exact ⟨front, h⟩
  · cases front with
    | nil =>
      rw [← (List.cons.inj h).1] at hl
      exact absurd hl (by decide)
    | cons c cs =>
      have htail := (List.cons.inj h).2
      cases cs with
      | nil => exact absurd (List.cons.inj htail).1 (by decide)
      | cons d ds => exact ⟨ds, (List.cons.inj htail).2.symm⟩

theorem afterDrive_of_no_colon (name : List Char) (h : ':' ∉ name) :
    Path.afterDrive name = name := by
  rcases afterDrive_cases name with hn | ⟨letter, -, hn⟩
  · exact hn
  · rw [hn] at h
    exact absurd (by simp) h

theorem turned_eq_iff (c : Char) : (if c = '/' then '\\' else c) = '\\' ↔ c ∈ separators := by
  by_cases h : c = '/' <;> simp [separators, h]

section
variable {front name : List Char} {sep : Char}

theorem backslashed_part (hsep : sep ∈ separators) (hslash : '/' ∉ name) :
    Path.backslashed (front ++ sep :: name) = Path.backslashed front ++ '\\' :: name := by
  have hname := Path.backslashed_of_not_mem name hslash
  rw [Path.backslashed] at hname
  rw [Path.backslashed, List.map_append, List.map_cons, (turned_eq_iff sep).mpr hsep, hname]
  rfl

theorem backslashed_ne_doubled (hsep : sep ∈ separators) (hback : '\\' ∉ name)
    (hfront : ¬ BeginsDoubled (front ++ [sep])) (rest : List Char) :
    Path.backslashed front ++ '\\' :: name ≠ '\\' :: '\\' :: rest := by
  intro h
  rcases front with _ | ⟨c, _ | ⟨d, ds⟩⟩
  · exact hback ((List.cons.inj h).2 ▸ List.mem_cons_self)
  · have hc := (turned_eq_iff c).mp (List.cons.inj h).1
    exact hfront ⟨c, hc, sep, hsep, [], rfl⟩
  · have hc := (turned_eq_iff c).mp (List.cons.inj h).1
    have hd := (turned_eq_iff d).mp (List.cons.inj (List.cons.inj h).2).1
    exact hfront ⟨c, hc, d, hd, ds ++ [sep], rfl⟩

theorem baseName_append (hne : name ≠ []) (hdot : name ≠ ['.']) (hslash : '/' ∉ name)
    (hback : '\\' ∉ name) (hsep : sep ∈ separators)
    (hfront : ¬ BeginsDoubled (front ++ [sep])) :
    Path.baseName (front ++ sep :: name) = name := by
  obtain ⟨rest, hrest⟩ := afterDrive_append (Path.backslashed front) name
  rw [Path.baseName, backslashed_part hsep hslash,
    relative_eq_afterDrive _ (backslashed_ne_doubled hsep hback hfront), hrest, pieces_append,
    pieces_of_not_mem _ _ hback]
  simp [hne, hdot]

theorem baseName_alone (hne : name ≠ []) (hdot : name ≠ ['.']) (hslash : '/' ∉ name)
    (hback : '\\' ∉ name) (hcolon : ':' ∉ name) : Path.baseName name = name := by
  have hhost : ∀ rest, name ≠ '\\' :: '\\' :: rest := fun rest h => hback (h ▸ List.mem_cons_self)
  rw [Path.baseName, Path.backslashed_of_not_mem _ hslash, relative_eq_afterDrive _ hhost,
    afterDrive_of_no_colon _ hcolon, pieces_of_not_mem _ _ hback]
  simp [hne, hdot]

end

theorem ne_dot_of_mem_reverse (cs : List Char) (h : '.' ∉ cs) :
    ∀ c ∈ cs.reverse, decide (c ≠ '.') = true :=
  fun _ hc => decide_eq_true fun hdot => h (hdot ▸ List.mem_reverse.mp hc)

theorem withoutExtension_dot (stem extension : List Char) (h : '.' ∉ extension) :
    Path.withoutExtension (stem ++ '.' :: extension) =
      if stem ≠ [] ∧ extension ≠ [] then stem else stem ++ '.' :: extension := by
  have hall := ne_dot_of_mem_reverse extension h
  have hreverse : (stem ++ '.' :: extension).reverse =
      extension.reverse ++ '.' :: stem.reverse := by simp
  rw [Path.withoutExtension, hreverse, List.takeWhile_append_of_pos hall,
    List.dropWhile_append_of_pos hall]
  simp

theorem withoutExtension_of_not_mem (name : List Char) (h : '.' ∉ name) :
    Path.withoutExtension name = name := by
  have hdrop : name.reverse.dropWhile (· ≠ '.') = [] :=
    List.dropWhile_eq_nil_iff.mpr (ne_dot_of_mem_reverse name h)
  rw [Path.withoutExtension, hdrop]

theorem dot_cases (name : List Char) :
    '.' ∉ name ∨ ∃ stem extension, '.' ∉ extension ∧ name = stem ++ '.' :: extension := by
  by_cases h : '.' ∈ name
  · obtain ⟨after, before, hsplit, hafter⟩ := List.eq_append_cons_of_mem (List.mem_reverse.mpr h)
    refine Or.inr ⟨before.reverse, after.reverse, by simpa using hafter, ?_⟩
    simpa using congrArg List.reverse hsplit
  · exact Or.inl h

theorem toLower_eq_dot (c : Char) : c.toLower = '.' ↔ c = '.' := by
  constructor
  · intro h
    unfold Char.toLower at h
    split at h
    · next hupper =>
      have hlow : 65 ≤ c.val.toNat := UInt32.le_iff_toNat_le.mp hupper.1
      have hhigh : c.val.toNat ≤ 90 := UInt32.le_iff_toNat_le.mp hupper.2
      have hval : (c.val + 32).toNat = 46 := congrArg (fun d => d.val.toNat) h
      have hthirtytwo : (32 : UInt32).toNat = 32 := rfl
      rw [UInt32.toNat_add, hthirtytwo] at hval
      omega
    · exact h
  · rintro rfl
    rfl

theorem dot_mem_lower (cs : List Char) : '.' ∈ cs.map Char.toLower ↔ '.' ∈ cs := by
  simp only [List.mem_map, toLower_eq_dot, exists_eq_right]

theorem withoutExtension_lower_iff (name base : List Char) (hb : base ≠ []) (hdot : '.' ∉ base) :
    (Path.withoutExtension name).map Char.toLower = base ↔
      name.map Char.toLower = base ∨
        ∃ extension, extension ≠ [] ∧ '.' ∉ extension ∧
          name.map Char.toLower = base ++ '.' :: extension := by
  rcases dot_cases name with hname | ⟨stem, extension, hext, rfl⟩
  · have hnone : ∀ extension, name.map Char.toLower ≠ base ++ '.' :: extension := by
      intro extension h
      exact hname ((dot_mem_lower name).mp (h ▸ by simp))
    rw [withoutExtension_of_not_mem name hname]
    simp [hnone]
  · have hlower : (stem ++ '.' :: extension).map Char.toLower =
        stem.map Char.toLower ++ '.' :: extension.map Char.toLower := by
      simp [(toLower_eq_dot '.').mpr rfl]
    have hext' : '.' ∉ extension.map Char.toLower := (dot_mem_lower extension).not.mpr hext
    have hbare : (stem ++ '.' :: extension).map Char.toLower ≠ base := by
      intro h
      exact hdot (h ▸ hlower ▸ by simp)
    -- The base has no dot, so the dot behind it is the one in front of the extension.
    have hsplit : ∀ ext, '.' ∉ ext →
        ((stem ++ '.' :: extension).map Char.toLower = base ++ '.' :: ext ↔
          base = stem.map Char.toLower ∧ ext = extension.map Char.toLower) := by
      intro ext he
      rw [hlower, eq_comm, List.append_cons_inj_of_notMem hdot he]
      simp
    rw [withoutExtension_dot stem extension hext]
    by_cases hboth : stem ≠ [] ∧ extension ≠ []
    · rw [if_pos hboth]
      constructor
      · rintro rfl
        refine Or.inr ⟨_, ?_, hext', hlower⟩
        simpa using hboth.2
      · rintro (h | ⟨ext, -, he, h⟩)
        · exact absurd h hbare
        · exact ((hsplit ext he).mp h).1.symm
    · rw [if_neg hboth]
      constructor
      · intro h
        exact absurd h hbare
      · rintro (h | ⟨ext, hne, he, h⟩)
        · exact absurd h hbare
        · obtain ⟨rfl, rfl⟩ := (hsplit ext he).mp h
          exact absurd ⟨by simpa using hb, by simpa using hne⟩ hboth

def Alias.name : Alias → String
  | .ll => "ll"
  | .la => "la"
  | .l => "l"

theorem ofStem?_eq_some_iff (stem : String) (a : Alias) :
    Alias.ofStem? stem = some a ↔ lowered stem = a.name.toList := by
  rw [Alias.ofStem?, lowered]
  generalize stem.toList.map Char.toLower = cs
  constructor
  · split <;> rintro ⟨⟩ <;> rfl
  · rintro rfl
    cases a <;> rfl

theorem plainName_parts (name : String) (h : PlainName name) :
    name.toList ≠ [] ∧ name.toList ≠ ['.'] ∧ '/' ∉ name.toList ∧ '\\' ∉ name.toList ∧
      ':' ∉ name.toList := by
  obtain ⟨hne, hdot, hplain⟩ := h
  refine ⟨by simpa using hne, fun hd => hdot ?_, hplain _ (by decide), hplain _ (by decide),
    hplain _ (by decide)⟩
  exact String.toList_inj.mp hd

theorem stem_behind (front name : String) (sep : Char) (hsep : sep ∈ separators)
    (hname : PlainName name) (hfront : ¬ BeginsDoubled (front.toList ++ [sep])) :
    Path.stem (front ++ String.singleton sep ++ name) = Path.stem name := by
  obtain ⟨hne, hdot, hslash, hback, hcolon⟩ := plainName_parts name hname
  have hlist : (front ++ String.singleton sep ++ name).toList =
      front.toList ++ sep :: name.toList := by simp
  rw [Path.stem, Path.stem, hlist, baseName_append hne hdot hslash hback hsep hfront,
    baseName_alone hne hdot hslash hback hcolon]

theorem ofProgram?_eq_some_iff (name : String) (hname : PlainName name) (a : Alias) :
    Alias.ofProgram? name = some a ↔ Spells name a.name := by
  obtain ⟨hne, hdot, hslash, hback, hcolon⟩ := plainName_parts name hname
  have hbase : a.name.toList ≠ [] ∧ '.' ∉ a.name.toList := by cases a <;> decide
  rw [Alias.ofProgram?, ofStem?_eq_some_iff, Path.stem,
    baseName_alone hne hdot hslash hback hcolon, lowered, String.toList_ofList,
    withoutExtension_lower_iff _ _ hbase.1 hbase.2]
  rfl

theorem impliedOptions_of_spells (name : String) (hname : PlainName name) (a : Alias)
    (h : Spells name a.name) : impliedOptions (some name) = a.options := by
  have ha := (ofProgram?_eq_some_iff name hname a).mpr h
  rw [impliedOptions, Option.bind_some, ha]

theorem impliedOptions_ne_nil_iff (name : String) (hname : PlainName name) :
    impliedOptions (some name) ≠ [] ↔ ∃ a : Alias, Spells name a.name := by
  constructor
  · intro h
    cases ha : Alias.ofProgram? name with
    | none => exact absurd (by rw [impliedOptions, Option.bind_some, ha]) h
    | some a => exact ⟨a, (ofProgram?_eq_some_iff name hname a).mp ha⟩
  · rintro ⟨a, ha⟩
    rw [impliedOptions_of_spells name hname a ha]
    cases a <;> exact List.cons_ne_nil _ _

/-- The options implied by the name of a program follow from the last part of
its path: they are those of the alias that it spells, if it spells one. -/
theorem implied_by_last_part (front name : String) (sep : Char) (hsep : sep ∈ separators)
    (hname : PlainName name) (hfront : ¬ BeginsDoubled (front.toList ++ [sep])) :
    impliedOptions (some (front ++ String.singleton sep ++ name)) = impliedOptions (some name) ∧
      (impliedOptions (some name) ≠ [] ↔ ∃ base ∈ ["ll", "la", "l"], Spells name base) ∧
      (Spells name "ll" → impliedOptions (some name) = ["-l"]) ∧
      (Spells name "la" → impliedOptions (some name) = ["-la"]) ∧
      (Spells name "l" → impliedOptions (some name) = ["-F"]) := by
  refine ⟨?_, ?_, impliedOptions_of_spells name hname .ll, impliedOptions_of_spells name hname .la,
    impliedOptions_of_spells name hname .l⟩
  · rw [impliedOptions, impliedOptions, Option.bind_some, Option.bind_some, Alias.ofProgram?,
      Alias.ofProgram?, stem_behind front name sep hsep hname hfront]
  · rw [impliedOptions_ne_nil_iff name hname]
    constructor
    · rintro ⟨a, ha⟩
      exact ⟨a.name, by cases a <;> decide, ha⟩
    · rintro ⟨base, hbase, hs⟩
      simp only [List.mem_cons, List.not_mem_nil, or_false] at hbase
      rcases hbase with rfl | rfl | rfl
      · exact ⟨.ll, hs⟩
      · exact ⟨.la, hs⟩
      · exact ⟨.l, hs⟩

/-- A drive and mixed separators in front, capitals and an extension behind;
and a name with two extensions, which spells nothing. -/
theorem implied_by_last_part_drive :
    ('\\' ∈ separators ∧ PlainName "La.EXE" ∧ ¬ BeginsDoubled ("C:/bin//x".toList ++ ['\\']) ∧
      impliedOptions (some "C:/bin//x\\La.EXE") = ["-la"]) ∧
    ('/' ∈ separators ∧ PlainName "ll.tar.gz" ∧ ¬ BeginsDoubled ("".toList ++ ['/']) ∧
      ¬ (∃ base ∈ ["ll", "la", "l"], Spells "ll.tar.gz" base) ∧
      impliedOptions (some "/ll.tar.gz") = []) := by
  have hupper : PlainName "La.EXE" := ⟨by decide, by decide, by simp [separators]⟩
  have hdouble : PlainName "ll.tar.gz" := ⟨by decide, by decide, by simp [separators]⟩
  have hdrive : ¬ BeginsDoubled ("C:/bin//x".toList ++ ['\\']) := by
    rintro ⟨a, ha, b, -, rest, h⟩
    rw [← (List.cons.inj h).1] at ha
    exact absurd ha (by decide)
  have hroot : ¬ BeginsDoubled ("".toList ++ ['/']) := by
    rintro ⟨a, -, b, -, rest, h⟩
    exact absurd (List.cons.inj h).2 (List.cons_ne_nil _ _).symm
  have hspells : Spells "La.EXE" "la" := Or.inr ⟨"exe".toList, by decide, by decide, by decide⟩
  have hnone : impliedOptions (some "ll.tar.gz") = [] := by decide
  obtain ⟨hbehind, -, -, hla, -⟩ :=
    implied_by_last_part "C:/bin//x" "La.EXE" '\\' (by decide) hupper hdrive
  obtain ⟨hbelow, hiff, -⟩ := implied_by_last_part "" "ll.tar.gz" '/' (by decide) hdouble hroot
  exact ⟨⟨by decide, hupper, hdrive, hbehind.trans (hla hspells)⟩, by decide, hdouble, hroot,
    fun h => hiff.mpr h hnone, hbelow.trans hnone⟩

end WindowsListing
