import SchemaTrail.Schema.FirstMatch

/-!
# Laws of the first match

`updateFirst` succeeds if the item that `List.find?` finds can be changed, and then leaves all other
items as they are (`updateFirst_eq_ok_iff`).
-/

namespace SchemaTrail

variable {α ε : Type} {p : α → Bool} {missing : ε} {change : α → Except ε (List α)}

theorem updateFirst_append {front back : List α} (h : ∀ b ∈ front, p b = false) {a : α}
    (ha : p a = true) :
    updateFirst p missing change (front ++ a :: back) =
      (change a).map fun new => front ++ new ++ back := by
  induction front with
  | nil =>
    rw [List.nil_append, updateFirst, if_pos ha]
    rfl
  | cons b front ih =>
    rw [List.forall_mem_cons] at h
    rw [List.cons_append, updateFirst, if_neg (by simp [h.1]), ih h.2]
    cases change a <;> rfl

theorem updateFirst_eq_ok_iff {as bs : List α} :
    updateFirst p missing change as = .ok bs ↔
      ∃ front a back new, as = front ++ a :: back ∧ (∀ b ∈ front, p b = false) ∧ p a = true ∧
        change a = .ok new ∧ bs = front ++ new ++ back := by
  constructor
  · intro h
    induction as generalizing bs with
    | nil => cases h
    | cons a as ih =>
      rw [updateFirst] at h
      by_cases ha : p a = true
      · rw [if_pos ha] at h
        cases hnew : change a with
        | error e => rw [hnew] at h; cases h
        | ok new =>
          rw [hnew] at h
          cases h
          exact ⟨[], a, as, new, rfl, by simp, ha, hnew, rfl⟩
      · rw [if_neg ha] at h
        cases hrest : updateFirst p missing change as with
        | error e => rw [hrest] at h; cases h
        | ok rest =>
          rw [hrest] at h
          cases h
          obtain ⟨front, b, back, new, rfl, hfront, hb, hnew, rfl⟩ := ih hrest
          exact ⟨a :: front, b, back, new, rfl,
            List.forall_mem_cons.2 ⟨by simpa using ha, hfront⟩, hb, hnew, rfl⟩
  · rintro ⟨front, a, back, new, rfl, hfront, ha, hnew, rfl⟩
    rw [updateFirst_append hfront ha, hnew]
    rfl

/-- The item that is found is the one that is changed. -/
theorem updateFirst_of_find? {as : List α} {a : α} (h : as.find? p = some a) {new : List α}
    (hnew : change a = .ok new) : ∃ bs, updateFirst p missing change as = .ok bs := by
  obtain ⟨ha, front, back, rfl, hfront⟩ := List.find?_eq_some_iff_append.1 h
  exact ⟨_, updateFirst_eq_ok_iff.2
    ⟨front, a, back, new, rfl, by simpa using hfront, ha, hnew, rfl⟩⟩

/-- Changing the first match of images gives the image of the change, if images match alike. -/
theorem updateFirst_map {β : Type} {f : α → β} {q : β → Bool} {change' : β → Except ε (List β)}
    {as : List α} (hp : ∀ a ∈ as, q (f a) = p a)
    (hchange : ∀ a ∈ as, change' (f a) = (change a).map (List.map f)) :
    updateFirst q missing change' (as.map f) =
      (updateFirst p missing change as).map (List.map f) := by
  induction as with
  | nil => rfl
  | cons a as ih =>
    rw [List.forall_mem_cons] at hp hchange
    rw [List.map_cons, updateFirst, updateFirst, hp.1]
    by_cases ha : p a = true
    · rw [if_pos ha, if_pos ha, hchange.1]
      cases change a with
      | error e => rfl
      | ok new => simp [Except.map]
    · rw [if_neg ha, if_neg ha, ih hp.2 hchange.2]
      cases updateFirst p missing change as <;> rfl

end SchemaTrail
