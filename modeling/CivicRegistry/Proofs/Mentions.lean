import Mathlib.Data.List.Induction
import Mathlib.Data.List.Nodup

/-!
# Values in the order of first mention

A list may mention a value several times.  Its values in the order of first
mention are those that it mentions, each once and none before a value that is
mentioned earlier; this settles them.
-/

namespace CivicRegistry

variable {α : Type}

/-- The values that a list mentions, in the order in which they are first
mentioned. -/
structure FirstMentions [BEq α] (values mentions : List α) : Prop where
  mem : ∀ value, value ∈ values ↔ value ∈ mentions
  ordered : values.Pairwise fun left right =>
    mentions.idxOf left < mentions.idxOf right

namespace FirstMentions

variable [BEq α] {values others mentions later : List α}

theorem nil : FirstMentions ([] : List α) [] where
  mem _ := Iff.rfl
  ordered := List.Pairwise.nil

theorem singleton (value : α) : FirstMentions [value] [value] where
  mem _ := Iff.rfl
  ordered := List.pairwise_singleton _ _

theorem nodup (hfirst : FirstMentions values mentions) : values.Nodup := by
  apply hfirst.ordered.imp
  rintro left _ hless rfl
  exact Nat.lt_irrefl _ hless

theorem eq (hfirst : FirstMentions values mentions)
    (hothers : FirstMentions others mentions) : values = others := by
  have hperm : values.Perm others := by
    rw [List.perm_ext_iff_of_nodup hfirst.nodup hothers.nodup]
    intro value
    rw [hfirst.mem, hothers.mem]
  apply hperm.eq_of_pairwise _ hfirst.ordered hothers.ordered
  intro left right _ _ hless hgreater
  exact absurd hless (Nat.lt_asymm hgreater)

variable [LawfulBEq α]

/-- What is mentioned later and not before is listed after what is mentioned
before. -/
theorem append (hfirst : FirstMentions values mentions)
    (hlater : FirstMentions others later)
    (hnew : ∀ value ∈ later, value ∉ mentions) :
    FirstMentions (values ++ others) (mentions ++ later) := by
  have hbefore {value : α} (hvalue : value ∈ values) :
      (mentions ++ later).idxOf value = mentions.idxOf value :=
    List.idxOf_append_of_mem ((hfirst.mem value).mp hvalue)
  have hafter {value : α} (hvalue : value ∈ others) :
      (mentions ++ later).idxOf value =
        mentions.length + later.idxOf value :=
    List.idxOf_append_of_notMem (hnew value ((hlater.mem value).mp hvalue))
  constructor
  · intro value
    rw [List.mem_append, List.mem_append, hfirst.mem, hlater.mem]
  · rw [List.pairwise_append]
    refine ⟨?_, ?_, ?_⟩
    · apply hfirst.ordered.imp_of_mem
      intro left right hleft hright hless
      rwa [hbefore hleft, hbefore hright]
    · apply hlater.ordered.imp_of_mem
      intro left right hleft hright hless
      rw [hafter hleft, hafter hright]
      omega
    · intro left hleft right hright
      rw [hbefore hleft, hafter hright]
      have hlength : mentions.idxOf left < mentions.length :=
        List.idxOf_lt_length_of_mem ((hfirst.mem left).mp hleft)
      omega

/-- A value that is mentioned again is not listed again. -/
theorem concat_of_mem (hfirst : FirstMentions values mentions) {value : α}
    (hvalue : value ∈ mentions) :
    FirstMentions values (mentions ++ [value]) where
  mem other := by
    rw [hfirst.mem, List.mem_append, List.mem_singleton]
    exact ⟨Or.inl, fun hother => hother.elim id fun hsame => hsame ▸ hvalue⟩
  ordered := by
    apply hfirst.ordered.imp_of_mem
    intro left right hleft hright hless
    rwa [List.idxOf_append_of_mem ((hfirst.mem left).mp hleft),
      List.idxOf_append_of_mem ((hfirst.mem right).mp hright)]

/-- Values that are mentioned once stand in the order of first mention. -/
theorem refl (hnodup : mentions.Nodup) : FirstMentions mentions mentions := by
  induction mentions using List.reverseRecOn with
  | nil => exact .nil
  | append_singleton mentions value ih =>
    rw [List.nodup_append] at hnodup
    obtain ⟨hmentions, -, hapart⟩ := hnodup
    apply (ih hmentions).append (.singleton value)
    intro other hother hmem
    exact hapart other hmem other hother rfl

end FirstMentions

variable [BEq α] [LawfulBEq α]

/-- Erasing what is mentioned before leaves the values in the order of first
mention. -/
theorem firstMentions_eraseDups (mentions : List α) :
    FirstMentions mentions.eraseDups mentions := by
  induction mentions using List.reverseRecOn with
  | nil => exact .nil
  | append_singleton mentions value ih =>
    rw [List.eraseDups_append]
    by_cases hvalue : value ∈ mentions
    · have hnone : [value].removeAll mentions = [] := by
        simp [List.removeAll, hvalue]
      rw [hnone, List.eraseDups_nil, List.append_nil]
      exact ih.concat_of_mem hvalue
    · have hkept : [value].removeAll mentions = [value] := by
        simp [List.removeAll, hvalue]
      rw [hkept]
      apply ih.append (.singleton value)
      simpa using hvalue

end CivicRegistry
