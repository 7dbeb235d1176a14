import CardText.Text.Replace
import Mathlib.Data.List.Infix
import Mathlib.Data.List.Chain

/-! What a replacement leaves behind. Its result is read from the left: an occurrence of the
old spelling becomes the new one, and a character that starts no occurrence stays. Whether a
pattern can arise at the seams then depends on the two spellings and the pattern alone. -/
namespace CardText.Text

inductive Replaced (old new : List Char) : List Char → List Char → Prop
  | nil : Replaced old new [] []
  | keep {c : Char} {rest out : List Char} (hc : ¬ old <+: c :: rest) :
      Replaced old new rest out → Replaced old new (c :: rest) (c :: out)
  | swap {rest out : List Char} :
      Replaced old new rest out → Replaced old new (old ++ rest) (new ++ out)

@[simp] theorem spelled_append {old : List Char} (rest : List Char) :
    spelled old (old ++ rest) = old.length := by
  rw [spelled, if_pos (List.isPrefixOf_iff_prefix.mpr (List.prefix_append old rest))]

theorem spelled_of_not_isPrefix {old text : List Char} (h : ¬ old <+: text) :
    spelled old text = 0 := by
  rw [spelled, if_neg (mt List.isPrefixOf_iff_prefix.mp h)]

theorem replaced_replaceFrom {old : List Char} (hold : old ≠ []) (new : List Char)
    (before : Option Char) (skip : Nat) (text : List Char) :
    Replaced old new (text.drop skip)
      (replaceFrom (fun _ => spelled old) new before skip text) := by
  induction text generalizing before skip with
  | nil =>
      rw [List.drop_nil, replaceFrom]
      exact .nil
  | cons c rest ih =>
      cases skip with
      | succ skip =>
          rw [List.drop_succ_cons, replaceFrom]
          exact ih (some c) skip
      | zero =>
          by_cases hc : old <+: c :: rest
          · obtain ⟨tail, htail⟩ := hc
            obtain ⟨first, others, rfl⟩ := List.exists_cons_of_ne_nil hold
            have hspelled : spelled (first :: others) (c :: rest) = others.length + 1 := by
              rw [← htail, spelled_append, List.length_cons]
            have hdrop : rest.drop others.length = tail := by
              obtain ⟨_, rfl⟩ := List.cons_eq_cons.mp htail
              exact List.drop_left
            simp only [List.drop_zero, replaceFrom, hspelled]
            rw [← htail, ← hdrop]
            exact .swap (ih (some c) others.length)
          · simp only [List.drop_zero, replaceFrom, spelled_of_not_isPrefix hc]
            exact .keep hc (ih (some c) 0)

theorem replaced_replaceAll {old : String} (hold : old.toList ≠ []) (new : String)
    (text : List Char) : Replaced old.toList new.toList text (replaceAll old new text) :=
  replaced_replaceFrom hold new.toList none 0 text

/-- The pattern does not arise where the new spelling takes the place of the old one: what of
the pattern the new spelling can end or begin with, the old one did already. -/
def Spares (old new pattern : List Char) : Prop :=
  ¬ pattern <:+: new ∧
    (∀ front ∈ pattern.inits, front <:+ new → front <:+ old) ∧
    ∀ back ∈ pattern.tails, back <+: new ∨ new <+: back → back <+: old

instance (old new pattern : List Char) : Decidable (Spares old new pattern) :=
  inferInstanceAs (Decidable (_ ∧ _ ∧ _))

def Settles (old new : List Char) : Prop :=
  Spares old new old ∧ ∀ front ∈ old.inits, front <:+ new → front = []

instance (old new : List Char) : Decidable (Settles old new) :=
  inferInstanceAs (Decidable (_ ∧ _))

namespace Replaced

variable {old new text out pattern : List Char}

theorem isPrefix_of_isPrefix (h : Replaced old new text out) (hspares : Spares old new pattern)
    {back : List Char} (hback : back <:+ pattern) (hout : back <+: out) : back <+: text := by
  induction h generalizing back with
  | nil => exact hout
  | keep hc hrest ih =>
      rcases List.prefix_cons_iff.mp hout with rfl | ⟨others, rfl, hothers⟩
      · exact List.nil_prefix
      · have hsuffix := (List.suffix_cons _ others).trans hback
        exact List.cons_prefix_cons.mpr ⟨rfl, ih hsuffix hothers⟩
  | @swap rest out hrest ih =>
      have hagree := List.prefix_or_prefix_of_prefix hout (List.prefix_append new out)
      have hold := hspares.2.2 back ((List.mem_tails back pattern).mpr hback) hagree
      exact hold.trans (List.prefix_append old rest)

theorem isInfix_of_isInfix (h : Replaced old new text out) (hspares : Spares old new pattern)
    (hout : pattern <:+: out) : pattern <:+: text := by
  induction h with
  | nil => exact hout
  | keep hc hrest ih =>
      rcases List.infix_cons_iff.mp hout with hstart | hinside
      · exact ((hrest.keep hc).isPrefix_of_isPrefix hspares List.suffix_rfl hstart).isInfix
      · exact List.infix_cons_iff.mpr (.inr (ih hinside))
  | @swap rest out hrest ih =>
      rcases List.infix_append_iff.mp hout with hnew | hinside | ⟨front, back, rfl, hfront, hback⟩
      · exact absurd hnew hspares.1
      · exact (ih hinside).trans (List.suffix_append old rest).isInfix
      · refine List.infix_append_iff.mpr (.inr (.inr ⟨front, back, rfl, ?_, ?_⟩))
        · exact hspares.2.1 front ((List.mem_inits _ _).mpr (List.prefix_append _ _)) hfront
        · exact hrest.isPrefix_of_isPrefix hspares (List.suffix_append _ _) hback

theorem not_isInfix (h : Replaced old new text out) (hold : old ≠ [])
    (hsettles : Settles old new) : ¬ old <:+: out := by
  induction h with
  | nil => simpa using hold
  | keep hc hrest ih =>
      intro hout
      rcases List.infix_cons_iff.mp hout with hstart | hinside
      · exact hc ((hrest.keep hc).isPrefix_of_isPrefix hsettles.1 List.suffix_rfl hstart)
      · exact ih hinside
  | swap hrest ih =>
      intro hout
      rcases List.infix_append_iff.mp hout with
        hnew | hinside | ⟨front, back, hsplit, hfront, hback⟩
      · exact hsettles.1.1 hnew
      · exact ih hinside
      · have hmem : front ∈ old.inits := (List.mem_inits _ _).mpr ⟨back, hsplit.symm⟩
        obtain rfl := hsettles.2 front hmem hfront
        rw [List.nil_append] at hsplit
        exact ih (hsplit ▸ hback.isInfix)

theorem eq_self (h : Replaced old new text out) (hno : ¬ old <:+: text) : out = text := by
  induction h with
  | nil => rfl
  | keep hc hrest ih => rw [ih fun hinside => hno (List.infix_cons_iff.mpr (.inr hinside))]
  | @swap rest out hrest ih => exact absurd (List.prefix_append old rest).isInfix hno

theorem mem_or_mem (h : Replaced old new text out) {c : Char} (hc : c ∈ out) :
    c ∈ text ∨ c ∈ new := by
  induction h with
  | nil => exact .inl hc
  | keep _ hrest ih =>
      rcases List.mem_cons.mp hc with rfl | hc
      · exact .inl (by simp)
      · exact (ih hc).imp_left (List.mem_cons_of_mem _)
  | swap hrest ih =>
      rcases List.mem_append.mp hc with hc | hc
      · exact .inr hc
      · exact (ih hc).imp_left (List.mem_append_right _)

theorem filter_eq (h : Replaced old new text out) {p : Char → Bool}
    (hold : ∀ c ∈ old, p c = false) (hnew : ∀ c ∈ new, p c = false) :
    out.filter p = text.filter p := by
  induction h with
  | nil => rfl
  | keep _ hrest ih => rw [List.filter_cons, List.filter_cons, ih]
  | swap hrest ih =>
      have hold : old.filter p = [] := List.filter_eq_nil_iff.mpr (by simpa using hold)
      have hnew : new.filter p = [] := List.filter_eq_nil_iff.mpr (by simpa using hnew)
      rw [List.filter_append, List.filter_append, ih, hold, hnew]

theorem eq_nil_iff (h : Replaced old new text out) (hold : old ≠ []) (hnew : new ≠ []) :
    out = [] ↔ text = [] := by
  cases h <;> simp [hold, hnew]

theorem forall_head (h : Replaced old new text out) (hold : old ≠ []) (hnew : new ≠ [])
    {p : Char → Prop} (hhead : (∀ c ∈ old.head?, p c) → ∀ c ∈ new.head?, p c)
    (htext : ∀ c ∈ text.head?, p c) : ∀ c ∈ out.head?, p c := by
  cases h with
  | nil => exact htext
  | keep _ hrest => exact htext
  | swap hrest =>
      rw [List.head?_append_of_ne_nil _ hold] at htext
      rw [List.head?_append_of_ne_nil _ hnew]
      exact hhead htext

theorem forall_getLast_append {front front' rest : List Char} {p : Char → Prop}
    (hnil : out = [] ↔ rest = [])
    (hlast : (∀ c ∈ front.getLast?, p c) → ∀ c ∈ front'.getLast?, p c)
    (hrest : (∀ c ∈ rest.getLast?, p c) → ∀ c ∈ out.getLast?, p c)
    (h : ∀ c ∈ (front ++ rest).getLast?, p c) : ∀ c ∈ (front' ++ out).getLast?, p c := by
  by_cases hempty : rest = []
  · rw [hnil.mpr hempty, List.append_nil]
    rw [hempty, List.append_nil] at h
    exact hlast h
  · rw [List.getLast?_append_of_ne_nil _ (mt hnil.mp hempty)]
    rw [List.getLast?_append_of_ne_nil _ hempty] at h
    exact hrest h

theorem forall_getLast (h : Replaced old new text out) (hold : old ≠ []) (hnew : new ≠ [])
    {p : Char → Prop} (hlast : (∀ c ∈ old.getLast?, p c) → ∀ c ∈ new.getLast?, p c)
    (htext : ∀ c ∈ text.getLast?, p c) : ∀ c ∈ out.getLast?, p c := by
  induction h with
  | nil => exact htext
  | @keep c rest out _ hrest ih =>
      rw [← List.singleton_append] at htext ⊢
      exact forall_getLast_append (hrest.eq_nil_iff hold hnew) id ih htext
  | swap hrest ih => exact forall_getLast_append (hrest.eq_nil_iff hold hnew) hlast ih htext

theorem isChain (h : Replaced old new text out) (hold : old ≠ []) (hnew : new ≠ [])
    {r : Char → Char → Prop} (hchain : new.IsChain r)
    (hhead : ∀ a, (∀ b ∈ old.head?, r a b) → ∀ b ∈ new.head?, r a b)
    (hlast : ∀ b, (∀ a ∈ old.getLast?, r a b) → ∀ a ∈ new.getLast?, r a b)
    (htext : text.IsChain r) : out.IsChain r := by
  induction h with
  | nil => exact htext
  | @keep c rest out _ hrest ih =>
      obtain ⟨hc, htext⟩ := List.isChain_cons.mp htext
      exact List.isChain_cons.mpr ⟨hrest.forall_head hold hnew (hhead c) hc, ih htext⟩
  | @swap rest out hrest ih =>
      obtain ⟨_, htext, hseam⟩ := List.isChain_append.mp htext
      refine List.isChain_append.mpr ⟨hchain, ih htext, fun a ha => ?_⟩
      refine hrest.forall_head hold hnew (hhead a) fun b hb => ?_
      exact hlast b (fun a ha => hseam a ha b hb) a ha

end Replaced
end CardText.Text
