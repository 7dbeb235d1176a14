import CardText.Proofs.Coverage.Placeholders

/-! The own name and a word that is none of its tokens. The name is found between boundaries, so it
neither ends within the word nor goes across it: the texts before the word and behind it lose the
name one by one, and the word stays. -/
namespace CardText.Fragment

open Text (replace replaceFrom)

section

variable {own front lead more rest token back : List Char} {c : Char}

theorem not_cut_of_reaches (isWord : IsWord token) (other : token ∉ tokens own)
    (hf : Cut lead token) (hb : Cut token back) (across : own = lead ++ more) (some : more ≠ [])
    (split : token ++ back = more ++ rest) : ¬ Cut own rest := by
  intro ends
  have held {behind : List Char} (split : own = lead ++ (token ++ behind))
      (cut : Cut token behind) : False := by
    refine other ?_
    rw [split, tokens_around (.word isWord) hf cut]
    exact List.mem_append_right _ List.mem_cons_self
  rcases List.append_eq_append_iff.mp split with ⟨behind, long, split⟩ | ⟨tail, short, split⟩
  · refine held (across.trans (congrArg (lead ++ ·) long)) ?_
    by_cases empty : behind = []
    · exact empty ▸ cut_nil_right token
    · exact (cut_append_right_iff empty).mp (split ▸ hb)
  · by_cases empty : tail = []
    · rw [empty, List.append_nil] at short
      exact held (across.trans (by rw [short, List.append_nil])) (cut_nil_right token)
    · subst across split short
      rw [cut_append_left_iff some, cut_append_right_iff empty] at ends
      exact isWord.not_cut some empty ends

namespace Anchored

variable {new : List Char}

theorem replace_around (h : Anchored own) (isWord : IsWord token) (other : token ∉ tokens own)
    (hf : Cut front token) (hb : Cut token back) :
    replace (anchored own).found new (front ++ (token ++ back)) =
      replace (anchored own).found new front ++
        (token ++ replace (anchored own).found new back) := by
  have severs : Text.Severs (anchored own).found front (token ++ back) := by
    rintro before text some ⟨lead, rfl⟩
    have cut : Cut text token := (cut_append_left_iff some).mp hf
    refine h.found_stop ((cut_append_right_iff isWord.ne_nil).mpr cut) ?_ before
    intro more rest some across split
    exact not_cut_of_reaches isWord other cut hb across some split
  have kept : ∀ lead rest, rest ≠ [] → token = lead ++ rest →
      (anchored own).found (lead.getLast?.or (front.getLast?.or none)) (rest ++ back) = 0 := by
    intro lead rest some split
    refine h.found_of_not_stands ?_
    rintro ⟨behind, spelled, start, ends⟩
    -- a name found here begins with the word, since a boundary is before it
    by_cases empty : lead = []
    · rw [empty, List.nil_append] at split
      subst split
      exact not_cut_of_reaches isWord other (cut_nil_left token) hb (List.nil_append own).symm
        h.ne_nil spelled ends
    · rw [List.getLast?_eq_some_getLast empty, Option.some_or, Option.any_some] at start
      have inside := isWord.letters _ (split ▸ List.mem_append_left rest (List.getLast_mem empty))
      exact Bool.noConfusion (start.symm.trans inside)
  have behind : (token.getLast?.or (front.getLast?.or none)) = token.getLast? := by
    rw [List.getLast?_eq_some_getLast isWord.ne_nil, Option.some_or]
  rw [replace, Text.replaceFrom_append h.bounded_found severs none (Nat.zero_le _),
    Text.replaceFrom_keep _ kept, behind, Text.replaceFrom_before (h.found_start hb)]
  rfl

theorem replace_sign_append (h : Anchored own) (sign : Unicode.isWord c = false) :
    replace (anchored own).found new (front ++ [c]) =
      replace (anchored own).found new front ++ [c] := by
  have severs : Text.Severs (anchored own).found front [c] := by
    intro before text some _
    refine h.found_stop (cut_sign_right sign text []) (fun more rest ne across split _ => ?_) before
    have whole : more = [c] := by
      obtain ⟨d, tail, rfl⟩ := List.exists_cons_of_ne_nil ne
      obtain ⟨rfl, nothing⟩ := List.cons_eq_cons.mp split
      rw [(List.append_eq_nil_iff.mp nothing.symm).1]
    have last := h.last
    rw [across, whole, List.getLast?_append_of_ne_nil text (List.cons_ne_nil c [])] at last
    exact Bool.noConfusion (sign.symm.trans last)
  rw [replace, Text.replaceFrom_append h.bounded_found severs none (Nat.zero_le _), replaceFrom,
    h.found_sign sign]
  rfl

theorem cut_replace_front (h : Anchored own) (isWord : IsWord token) (cut : Cut front token) :
    Cut (replace (anchored own).found new front) token := by
  rcases front.eq_nil_or_concat with rfl | ⟨front, c, rfl⟩
  · exact cut_nil_left token
  · rw [List.concat_eq_append] at cut ⊢
    have sign : Unicode.isWord c = false := by
      simpa using (cut_iff_of_head isWord.head).mp cut
    rw [h.replace_sign_append sign]
    exact (cut_append_left_iff (List.cons_ne_nil c [])).mpr (cut_sign_left sign token)

theorem cut_replace_back (h : Anchored own) (isWord : IsWord token) (cut : Cut token back) :
    Cut token (replace (anchored own).found new back) := by
  cases back with
  | nil => exact cut_nil_right token
  | cons c back =>
      have sign : Unicode.isWord c = false := (cut_iff_of_last isWord.last).mp cut
      rw [replace, replaceFrom, h.found_sign sign]
      exact cut_sign_right sign token _

end Anchored

/-- The letters satisfy the condition at both ends, and hold neither a number nor the name of a
type or a condition. -/
structure TellsNothing (letter : Char → Bool) (own : List Char) : Prop where
  head : ∀ c ∈ own.head?, letter c = true
  last : ∀ c ∈ own.getLast?, letter c = true
  no_digit : ∀ c ∈ own, c.isDigit = false
  no_type : ∀ energy : Energy, ¬ HasWord own energy.name.toList
  no_status : ∀ status : Status, ¬ HasWord own status.name.toList

theorem tellsNothing_of_all {letter : Char → Bool} {own : List Char}
    (ends : (own.head?.all letter && own.getLast?.all letter) = true)
    (digits : (own.all fun c => !c.isDigit) = true)
    (names : ((typeNames ++ statusNames).all fun name => !(tokens own).contains name) = true) :
    TellsNothing letter own := by
  rw [Bool.and_eq_true, Option.all_eq_true, Option.all_eq_true] at ends
  have other {name : List Char} (known : name ∈ typeNames ++ statusNames) : name ∉ tokens own := by
    simpa using List.all_eq_true.mp names name known
  exact {
    head := ends.1
    last := ends.2
    no_digit := fun c inside => by simpa using List.all_eq_true.mp digits c inside
    no_type := fun energy has =>
      other (List.mem_append_left _ (mem_typeNames energy))
        ((hasWord_iff_mem_tokens (isWord_of_mem_typeNames _ (mem_typeNames energy))).mp has)
    no_status := fun status has =>
      other (List.mem_append_right _ (mem_statusNames status))
        ((hasWord_iff_mem_tokens (isWord_of_mem_statusNames _ (mem_statusNames status))).mp has) }

/-- A letter of the newest tables that was one in the older ones too. -/
def isOldLetter (c : Char) : Bool := Unicode.isAlphabetic c && Unicode.isWord c

theorem joinsWords_of_isOldLetter (h : isOldLetter c = true) : joinsWords c = true := by
  rw [isOldLetter, Bool.and_eq_true] at h
  rw [joinsWords, Unicode.isAlphanumeric, h.1]
  rfl

namespace TellsNothing

theorem anchored (h : TellsNothing isOldLetter own) (ne : own ≠ []) : Anchored own where
  head := by
    rw [List.head?_eq_some_head ne]
    exact (Bool.and_eq_true_iff.mp (h.head _ (List.head?_eq_some_head ne))).2
  last := by
    rw [List.getLast?_eq_some_getLast ne]
    exact (Bool.and_eq_true_iff.mp (h.last _ (List.getLast?_eq_some_getLast ne))).2

theorem ownName_eq (h : TellsNothing isOldLetter own) (ne : own ≠ []) :
    ownName own = Fragment.anchored own := by
  have first := joinsWords_of_isOldLetter (h.head _ (List.head?_eq_some_head ne))
  have last := joinsWords_of_isOldLetter (h.last _ (List.getLast?_eq_some_getLast ne))
  rw [ownName, List.head?_eq_some_head ne, List.getLast?_eq_some_getLast ne, Option.any_some,
    Option.any_some, first, last]

theorem hideName_around (h : TellsNothing isOldLetter own) (isWord : IsWord token)
    (other : token ∉ tokens own) (hf : Cut front token) (hb : Cut token back) :
    hideName own (front ++ (token ++ back)) = hideName own front ++ (token ++ hideName own back) ∧
      Cut (hideName own front) token ∧ Cut token (hideName own back) := by
  by_cases empty : own = []
  · simp [hideName, empty, hf, hb]
  · have named : own.isEmpty = false := by simpa using empty
    have ends := h.anchored empty
    simp only [hideName, named, Bool.false_eq_true, if_false, h.ownName_eq empty]
    exact ⟨ends.replace_around isWord other hf hb, ends.cut_replace_front isWord hf,
      ends.cut_replace_back isWord hb⟩

end TellsNothing

end

end CardText.Fragment
