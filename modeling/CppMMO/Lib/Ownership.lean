import Mathlib.Data.List.Nodup
import Mathlib.Logic.Function.Basic

/-! Objects that are kept at places, each at one place and there once. -/

set_option autoImplicit false

namespace CppMMO.Lib

variable {Place Object : Type}

/-- `keeps` lists the objects at every place; exactly the live ones are kept somewhere. -/
structure Exclusive (keeps : Place → List Object) (live : Object → Prop) : Prop where
  nodup : ∀ place, (keeps place).Nodup
  place_eq : ∀ {object place other}, object ∈ keeps place → object ∈ keeps other → place = other
  live_iff : ∀ {object}, live object ↔ ∃ place, object ∈ keeps place

namespace Exclusive

variable {keeps : Place → List Object} {live : Object → Prop}

theorem existsUnique (exclusive : Exclusive keeps live) {object : Object} (alive : live object) :
    ∃! place, object ∈ keeps place := by
  obtain ⟨place, kept⟩ := exclusive.live_iff.mp alive
  exact ⟨place, kept, fun _ keptThere => exclusive.place_eq keptThere kept⟩

theorem nowhere : Exclusive (fun _ : Place => ([] : List Object)) fun _ => False :=
  ⟨fun _ => List.nodup_nil, fun kept => absurd kept List.not_mem_nil, by simp⟩

theorem congr {others : Place → List Object} {alive : Object → Prop}
    (exclusive : Exclusive keeps live) (keeps_eq : others = keeps)
    (live_iff : ∀ object, alive object ↔ live object) : Exclusive others alive := by
  subst keeps_eq
  exact ⟨exclusive.nodup, exclusive.place_eq, fun {object} =>
    (live_iff object).trans exclusive.live_iff⟩

variable [DecidableEq Place]

theorem put (exclusive : Exclusive keeps live) {object : Object} (dead : ¬ live object)
    (place : Place) :
    Exclusive (Function.update keeps place (keeps place ++ [object]))
      fun other => live other ∨ other = object := by
  have nowhereBefore : ∀ there, object ∉ keeps there := fun there kept =>
    dead (exclusive.live_iff.mpr ⟨there, kept⟩)
  have mem_iff : ∀ other there,
      other ∈ Function.update keeps place (keeps place ++ [object]) there ↔
        other ∈ keeps there ∨ there = place ∧ other = object := by
    intro other there
    by_cases same : there = place
    · subst same
      simp
    · simp [same]
  refine ⟨fun there => ?_, fun {other first second} keptFirst keptSecond => ?_, fun {other} => ?_⟩
  · by_cases same : there = place
    · subst same
      rw [Function.update_self]
      rw [← List.concat_eq_append]
      exact List.Nodup.concat (nowhereBefore there) (exclusive.nodup there)
    · rw [Function.update_of_ne same]
      exact exclusive.nodup there
  · rw [mem_iff] at keptFirst keptSecond
    rcases keptFirst with old | ⟨rfl, rfl⟩ <;> rcases keptSecond with oldToo | ⟨rfl, isObject⟩
    · exact exclusive.place_eq old oldToo
    · exact absurd (isObject ▸ old) (nowhereBefore first)
    · exact absurd oldToo (nowhereBefore second)
    · rfl
  · simp only [mem_iff, exists_or, exists_eq_left, exclusive.live_iff]

theorem drop [DecidableEq Object] (exclusive : Exclusive keeps live) {object : Object}
    {place : Place} (kept : object ∈ keeps place) :
    Exclusive (Function.update keeps place ((keeps place).erase object))
      fun other => live other ∧ other ≠ object := by
  have mem_iff : ∀ other there,
      other ∈ Function.update keeps place ((keeps place).erase object) there ↔
        other ∈ keeps there ∧ other ≠ object := by
    intro other there
    by_cases same : there = place
    · subst same
      rw [Function.update_self, (exclusive.nodup there).mem_erase_iff, and_comm]
    · rw [Function.update_of_ne same]
      refine ⟨fun keptThere => ⟨keptThere, ?_⟩, And.left⟩
      rintro rfl
      exact same (exclusive.place_eq keptThere kept)
  refine ⟨fun there => ?_, fun {other first second} keptFirst keptSecond => ?_, fun {other} => ?_⟩
  · by_cases same : there = place
    · subst same
      rw [Function.update_self]
      exact (exclusive.nodup there).erase object
    · rw [Function.update_of_ne same]
      exact exclusive.nodup there
  · exact exclusive.place_eq ((mem_iff other first).mp keptFirst).1
      ((mem_iff other second).mp keptSecond).1
  · simp only [mem_iff, exists_and_right, exclusive.live_iff]

end Exclusive

end CppMMO.Lib
