import Mathlib.Data.List.Perm.Basic
import RecordFlow.Proofs.Binary64.Text
import RecordFlow.Proofs.Literal.Objects
import RecordFlow.Regex.Engine

/-! # Written literals

The written form of a literal is derived by the grammar and denotes the literal,
as far as its numbers are finite and its patterns stand on one line. Read
parameters have such patterns only, so they are read again from their written form.
-/

namespace RecordFlow

namespace Literal

open Grammar Binary64

/-- Digits with a decimal value in the span of a finite magnitude are a numeral of the magnitude. -/
theorem number_of_nearestDecimal {m : Magnitude} {negative : Bool} {sign whole point fraction : List Char}
    (hsign : Sign sign negative) (hwhole : ∀ c ∈ whole, isDecimalDigit c) (hpoint : Fraction point fraction)
    (hdigits : whole ++ fraction ≠ []) (hfinite : m.isFinite)
    (hnearest : Magnitude.NearestDecimal m.code
      ⟨ofDecimalDigits (whole ++ fraction), -(fraction.length : Int)⟩) :
    Number (sign ++ whole ++ point) (.signed negative m) := by
  have hnumber := Number.decimal hsign hwhole hpoint hdigits .none
  have hvalue : Magnitude.ofDecimal (Numeral.toDecimal ⟨whole, fraction, 0⟩) = m := by
    rw [Numeral.toDecimal, Int.zero_sub]
    exact Magnitude.ofDecimal_eq_of_nearest hnearest hfinite
  rwa [Binary64.ofDecimal, hvalue, List.append_nil] at hnumber

theorem number_zeros {m : Magnitude} {d : Decimal} {negative : Bool} {sign : List Char}
    (hsign : Sign sign negative) (hfinite : m.isFinite) (hnearest : Magnitude.NearestDecimal m.code d)
    (hexp : 0 ≤ d.exponent) :
    Number (sign ++ (decimalDigits d.digits ++ List.replicate d.exponent.toNat '0')) (.signed negative m) := by
  have hdigits : ∀ c ∈ decimalDigits d.digits ++ List.replicate d.exponent.toNat '0', isDecimalDigit c := by
    intro c hc
    exact (List.mem_append.1 hc).elim (isDecimalDigit_of_mem_decimalDigits c) (isDecimalDigit_of_mem_zeros c)
  have h := number_of_nearestDecimal (m := m) hsign hdigits .none (by simp [decimalDigits]) hfinite (by
    rw [List.append_nil, ofDecimalDigits_append_zeros, ofDecimalDigits_decimalDigits,
      Magnitude.nearestDecimal_ten_pow, List.length_nil, Int.ofNat_zero, Int.neg_zero, Int.zero_add,
      Int.toNat_of_nonneg hexp]
    exact hnearest)
  rwa [List.append_nil] at h

theorem number_point {m : Magnitude} {d : Decimal} {negative : Bool} {sign whole fraction : List Char}
    (hsign : Sign sign negative) (hfinite : m.isFinite) (hnearest : Magnitude.NearestDecimal m.code d)
    (hexp : d.exponent < 0) (hsplit : d.Split whole fraction) :
    Number (sign ++ (whole ++ '.' :: fraction)) (.signed negative m) := by
  obtain ⟨hwhole, hfraction⟩ := List.forall_mem_append.1 hsplit.digits
  rw [← List.append_assoc]
  refine number_of_nearestDecimal hsign hwhole (.point hfraction)
    (List.append_ne_nil_of_left_ne_nil hsplit.whole_ne_nil _) hfinite ?_
  rw [hsplit.value, hsplit.length_fraction, show -(d.exponent.natAbs : Int) = d.exponent by omega]
  exact hnearest

theorem number_plain {m : Magnitude} {d : Decimal} {negative : Bool} {sign : List Char}
    (hsign : Sign sign negative) (hfinite : m.isFinite) (hnearest : Magnitude.NearestDecimal m.code d) :
    Number (sign ++ (d.plain "").toList) (.signed negative m) := by
  by_cases hexp : 0 ≤ d.exponent
  · rw [Decimal.toList_plain_of_nonneg hexp]
    simpa using number_zeros hsign hfinite hnearest hexp
  · obtain ⟨whole, fraction, hform, hsplit⟩ := Decimal.exists_split (Int.not_le.1 hexp) ""
    rw [hform]
    exact number_point hsign hfinite hnearest (Int.not_le.1 hexp) hsplit

theorem number_toPlainText {x : Binary64} (hfinite : x.isFinite) : Number x.toPlainText.toList x := by
  cases x with
  | nan => cases hfinite
  | signed negative m =>
    have hnearest := m.nearestDecimal_shortest .up
    have hm : m.isFinite := hfinite
    cases negative with
    | false => simpa [toPlainText, hm] using number_plain .none hm hnearest
    | true => simpa [toPlainText, hm] using number_plain .minus hm hnearest

theorem stringBody_escape (c : Char) {body chars : List Char} (h : StringBody '"' body chars) :
    StringBody '"' (Text.escape c ++ body) (c :: chars) := by
  have hcode {code : List Char} {d : Char} (hd : Escape code [d]) :
      StringBody '"' ('\\' :: code ++ body) (d :: chars) := .escape hd h
  simp only [Text.escape]
  split
  · next hc => subst hc; exact hcode (.plain (by decide) (by decide) (by decide))
  split
  · next hc => subst hc; exact hcode (.plain (by decide) (by decide) (by decide))
  split
  · next hc => subst hc; exact hcode (.control (by decide))
  split
  · next hc => subst hc; exact hcode (.control (by decide))
  split
  · next hc => subst hc; exact hcode (.control (by decide))
  split
  · next hc => subst hc; exact hcode (.control (by decide))
  split
  · next hquote hbackslash hnewline _ _ _ _ => exact .plain hquote hbackslash hnewline h
  · have hvalid : (ofHexDigits (hexDigits c.toNat)).isValidChar := by
      rw [ofHexDigits_hexDigits]
      exact c.valid
    have hne : hexDigits c.toNat ≠ [] := Nat.toDigits_ne_nil
    have hbraced := Escape.braced hne isHexDigit_of_mem_hexDigits hvalid
    rw [ofHexDigits_hexDigits, Char.ofNat_toNat] at hbraced
    simpa using hcode hbraced

theorem stringBody_flatMap_escape (text : List Char) : StringBody '"' (text.flatMap Text.escape) text := by
  induction text with
  | nil => exact .nil
  | cons c text ih => exact stringBody_escape c ih

theorem exists_perm_of_perm_map {α β : Type} {f : α → β} {l : List α} {l' : List β}
    (h : l'.Perm (l.map f)) : ∃ order : List α, order.Perm l ∧ l' = order.map f := by
  have hmap : List.Forall₂ (fun b a => b = f a) (l.map f) l := by
    rw [List.forall₂_map_left_iff]
    exact List.forall₂_same.2 fun _ _ => rfl
  obtain ⟨order, horder, hperm⟩ := List.perm_comp_forall₂ h hmap
  refine ⟨order, hperm, ?_⟩
  rwa [← List.forall₂_eq_eq_eq, List.forall₂_map_right_iff]

end Literal

variable [Engine]

def Literal.scalars : Literal → List Scalar
  | scalar s => [s]
  | array items => items

def Scalar.numbers : Scalar → List Binary64
  | .number x => [x]
  | _ => []

def Literal.numbers (v : Literal) : List Binary64 := v.scalars.flatMap Scalar.numbers

/-- All numbers in parameters, those in arrays included. -/
def Parameters.numbers (p : Parameters) : List Binary64 :=
  p.entries.flatMap fun e => e.2.numbers

/-- A value whose written form is a value of the grammar. -/
def Scalar.Writable : Scalar → Prop
  | .string _ => True
  | .number x => x.isFinite
  | .boolean _ => True
  | .pattern p => p.source ≠ "" ∧ '*' ∉ p.source.toList.head? ∧
      Literal.Grammar.Source false p.source.toList ∧
      ∀ c ∈ p.source.toList, Literal.Grammar.OnOneLine c

namespace Literal

open Grammar Binary64

theorem scalarAt_toText {s : Scalar} (h : s.Writable) {rest : List Char} (hend : WordEnd rest) :
    ScalarAt OnOneLine (s.toText.toList ++ rest) rest s := by
  cases s with
  | string s =>
    have hbody := stringBody_flatMap_escape s.toList
    have hscalar : ScalarAt OnOneLine ('"' :: s.toList.flatMap Text.escape ++ '"' :: rest) rest _ :=
      .string (.inl rfl) hbody
    simpa [Scalar.toText, quoted, Text.quote] using hscalar
  | number x => exact .number (number_toPlainText h) hend
  | boolean b => exact .boolean b hend
  | pattern p =>
    obtain ⟨hne, hstar, hsource, hline⟩ := h
    simpa [Scalar.toText, Pattern.toText] using ScalarAt.pattern hne hstar hsource hline hend

theorem Grammar.ItemsAt.space {text rest : List Char} {items : List Scalar}
    (h : ItemsAt OnOneLine text rest items) : ItemsAt OnOneLine (' ' :: text) rest items := by
  cases h with
  | nil h => exact .nil h.space
  | last h hitem hend => exact .last h.space hitem hend
  | cons h hitem hcomma hmore => exact .cons h.space hitem hcomma hmore

theorem itemsAt_toText {items : List Scalar} (h : ∀ s ∈ items, s.Writable) (rest : List Char) :
    ItemsAt OnOneLine ((", ".intercalate (items.map Scalar.toText)).toList ++ ']' :: rest) rest items := by
  induction items with
  | nil => exact .nil (.nil _)
  | cons s items ih =>
    obtain ⟨hs, hitems⟩ := List.forall_mem_cons.1 h
    cases items with
    | nil =>
      have hend : WordEnd (']' :: rest) := wordEnd_cons (by decide) rest
      simpa using ItemsAt.last (.nil _) (scalarAt_toText hs hend) (.nil _)
    | cons t items =>
      have hend (more : List Char) : WordEnd (',' :: more) := wordEnd_cons (by decide) more
      simpa using ItemsAt.cons (.nil _) (scalarAt_toText hs (hend _)) (.nil _) (ih hitems).space

theorem valueAt_toText {v : Literal} (h : ∀ s ∈ v.scalars, s.Writable) {rest : List Char}
    (hend : WordEnd rest) : ValueAt OnOneLine (v.toText.toList ++ rest) rest v := by
  cases v with
  | scalar s => exact .scalar (scalarAt_toText (h s (List.mem_singleton_self s)) hend)
  | array items =>
    have hitems : ∀ s ∈ items, s.Writable := h
    simpa [toText] using ValueAt.array (itemsAt_toText hitems rest)

def memberText (m : String × Literal) : String := m.1 ++ ": " ++ m.2.toText

structure WritableMember (m : String × Literal) : Prop where
  key : Identifier m.1.toList
  value : ∀ s ∈ m.2.scalars, s.Writable

theorem memberAt_memberText {m : String × Literal} (h : WritableMember m) {rest : List Char}
    (hend : WordEnd rest) : MemberAt OnOneLine ((memberText m).toList ++ rest) rest m := by
  have hvalue := valueAt_toText h.value hend
  have hcolon (more : List Char) : WordEnd (':' :: more) := wordEnd_cons (by decide) more
  have hmember := MemberAt.mk h.key (hcolon _) (.nil _) (Trivia.nil _).space hvalue
  simpa [memberText] using hmember

theorem Grammar.MembersAt.space {text rest : List Char} {members : List (String × Literal)}
    (h : MembersAt OnOneLine text rest members) : MembersAt OnOneLine (' ' :: text) rest members := by
  cases h with
  | nil h => exact .nil h.space
  | last h hmember hend => exact .last h.space hmember hend
  | cons h hmember hcomma hmore => exact .cons h.space hmember hcomma hmore

theorem membersAt_memberText {members : List (String × Literal)} (h : ∀ m ∈ members, WritableMember m)
    (rest : List Char) :
    MembersAt OnOneLine ((", ".intercalate (members.map memberText)).toList ++ '\x7d' :: rest) rest
      members := by
  induction members with
  | nil => exact .nil (.nil _)
  | cons m members ih =>
    obtain ⟨hm, hmembers⟩ := List.forall_mem_cons.1 h
    cases members with
    | nil =>
      have hend : WordEnd ('\x7d' :: rest) := wordEnd_cons (by decide) rest
      simpa using MembersAt.last (.nil _) (memberAt_memberText hm hend) (.nil _)
    | cons n members =>
      have hend (more : List Char) : WordEnd (',' :: more) := wordEnd_cons (by decide) more
      simpa using MembersAt.cons (.nil _) (memberAt_memberText hm (hend _)) (.nil _) (ih hmembers).space

/-- The members of an object, written one after another, are read again. -/
theorem readText_memberText {members : List (String × Literal)} (h : ∀ m ∈ members, WritableMember m) :
    readText ("\x7b" ++ ", ".intercalate (members.map memberText) ++ "\x7d").toList = .ok members := by
  refine readText_eq_ok_iff.2 ?_
  simpa using Sentence.mk (.nil _) (membersAt_memberText h []) (.nil _)

theorem Grammar.ScalarAt.writable {text rest : List Char} {s : Scalar}
    (h : ScalarAt OnOneLine text rest s) (hfinite : ∀ x ∈ s.numbers, x.isFinite) : s.Writable := by
  cases h with
  | string => trivial
  | number => exact hfinite _ (List.mem_singleton_self _)
  | boolean => trivial
  | pattern hne hstar hsource hline => exact ⟨hne, hstar, hsource, hline⟩

theorem Grammar.ItemsAt.mem {text rest : List Char} {items : List Scalar}
    (h : ItemsAt OnOneLine text rest items) :
    ∀ s ∈ items, ∃ value next, ScalarAt OnOneLine value next s := by
  induction h with
  | nil => simp
  | last _ hitem _ => simpa using ⟨_, _, hitem⟩
  | cons _ hitem _ _ ih => exact List.forall_mem_cons.2 ⟨⟨_, _, hitem⟩, ih⟩

theorem Grammar.ValueAt.writable {text rest : List Char} {v : Literal}
    (h : ValueAt OnOneLine text rest v) (hfinite : ∀ x ∈ v.numbers, x.isFinite) :
    ∀ s ∈ v.scalars, s.Writable := by
  intro s hs
  have hs_finite : ∀ x ∈ s.numbers, x.isFinite := fun x hx => hfinite x (List.mem_flatMap.2 ⟨s, hs, hx⟩)
  cases h with
  | scalar h => rw [List.mem_singleton.1 hs] at hs_finite ⊢; exact h.writable hs_finite
  | array h =>
    obtain ⟨value, next, hitem⟩ := h.mem s hs
    exact hitem.writable hs_finite

theorem Grammar.MemberAt.writable {text rest : List Char} {m : String × Literal}
    (h : MemberAt OnOneLine text rest m) (hfinite : ∀ x ∈ m.2.numbers, x.isFinite) :
    WritableMember m := by
  cases h with
  | mk hkey _ _ _ hvalue => exact ⟨by simpa using hkey, hvalue.writable hfinite⟩

theorem Grammar.MembersAt.mem {text rest : List Char} {members : List (String × Literal)}
    (h : MembersAt OnOneLine text rest members) :
    ∀ m ∈ members, ∃ member next, MemberAt OnOneLine member next m := by
  induction h with
  | nil => simp
  | last _ hmember _ => simpa using ⟨_, _, hmember⟩
  | cons _ hmember _ _ ih => exact List.forall_mem_cons.2 ⟨⟨_, _, hmember⟩, ih⟩

theorem memberAt_of_readText {text : List Char} {members : List (String × Literal)}
    (h : readText text = .ok members) :
    ∀ m ∈ members, ∃ member next, MemberAt OnOneLine member next m := by
  cases readText_eq_ok_iff.1 h with
  | mk _ hmembers _ => exact hmembers.mem

end Literal

namespace Parameters

open Literal

theorem toText_eq (p : Parameters) :
    p.toText = "\x7b" ++ ", ".intercalate ((p.entries.map memberText).mergeSort fun a b => decide (a ≤ b)) ++
      "\x7d" := rfl

/-- Parameters with finite numbers are read again from their written form. -/
theorem ofText_toText {text : String} {p : Parameters} (h : ofText text = .ok p)
    (hfinite : ∀ x ∈ p.numbers, x.isFinite) : ofText p.toText = .ok p := by
  obtain ⟨members, hread, rfl⟩ := ofText_eq_ok_iff_readText.1 h
  have hwritable : ∀ m ∈ (Dict.ofList members).entries, WritableMember m := by
    intro m hm
    obtain ⟨member, next, hmember⟩ := memberAt_of_readText hread m (Dict.mem_of_mem_ofList hm)
    exact hmember.writable fun x hx => hfinite x (List.mem_flatMap.2 ⟨m, hm, hx⟩)
  obtain ⟨order, hperm, hsorted⟩ := exists_perm_of_perm_map
    (List.mergeSort_perm ((Dict.ofList members).entries.map memberText) fun a b => decide (a ≤ b))
  refine ofText_eq_ok_iff_readText.2 ⟨order, ?_, Dict.ofList_of_perm hperm⟩
  rw [toText_eq, hsorted]
  exact readText_memberText fun m hm => hwritable m (hperm.mem_iff.1 hm)

end Parameters

end RecordFlow

namespace RecordFlow.Parameters

open Literal

open scoped Regex

/-- A string with a control character, a negative zero, a fraction and an empty array. -/
theorem ofText_toText_mixed :
    ∃ p, ofText "\x7bb: ['q\\x1b', -0], a: 1e-7, c: []\x7d" = .ok p ∧ p.numbers.length = 2 ∧
      (∀ x ∈ p.numbers, x.isFinite) ∧ ofText p.toText = .ok p := by
  have hrun : (ofText "\x7bb: ['q\\x1b', -0], a: 1e-7, c: []\x7d").toOption.any (fun p =>
      decide (p.numbers.length = 2 ∧ ∀ x ∈ p.numbers, x.isFinite)) := by decide +kernel
  cases h : ofText "\x7bb: ['q\\x1b', -0], a: 1e-7, c: []\x7d" with
  | error e => simp [h, Except.toOption] at hrun
  | ok p =>
    obtain ⟨hlength, hfinite⟩ : p.numbers.length = 2 ∧ ∀ x ∈ p.numbers, x.isFinite := by
      simpa [h, Except.toOption] using hrun
    exact ⟨p, rfl, hlength, hfinite, ofText_toText h hfinite⟩

end RecordFlow.Parameters
