import GrammarBrew.Proofs.Lookup
import GrammarBrew.Setting.Key

/-!
What stands under a name after a value was laid over a setting. A plain value takes the place of the
one before, a table changes only what it names, and all that stands under other names is left as it
is.
-/

set_option autoImplicit false
set_option relaxedAutoImplicit false

namespace GrammarBrew.Setting

variable {change : Option Setting → Setting} {setting value : Setting} {name key : Text}
  {entries values : List (Text × Setting)}

def IsTable (value : Setting) : Prop := ∃ entries, value = table entries

instance : (value : Setting) → Decidable value.IsTable
  | table entries => isTrue ⟨entries, rfl⟩
  | null | boolean _ | integer _ | float _ | text _ | list _ => isFalse (by rintro ⟨_, h⟩; cases h)

private theorem lookup_alterEntry : (alterEntry change name entries).lookup key
    = if key = name then some (change (entries.lookup name)) else entries.lookup key := by
  induction entries with
  | nil => rw [alterEntry, lookup_cons_eq_ite, List.lookup_nil, List.lookup_nil]
  | cons entry entries ih =>
    obtain ⟨other, held⟩ := entry
    rw [alterEntry, lookup_cons_eq_ite, lookup_cons_eq_ite]
    by_cases hother : other = name
    · subst hother
      rw [if_pos rfl, if_pos rfl, lookup_cons_eq_ite]
      by_cases hkey : key = other <;> simp [hkey]
    · rw [if_neg hother, if_neg (Ne.symm hother), lookup_cons_eq_ite, ih]
      by_cases hkey : key = name
      · simp [hkey, Ne.symm hother]
      · simp [hkey]

theorem get?_alter : (setting.alter change name).get? key
    = if key = name.lower then some (change (setting.get? name.lower)) else setting.get? key :=
  lookup_alterEntry

/-! ### Laying values over others -/

private theorem put_of_not_isTable (h : ¬ value.IsTable) :
    setting.put name value = setting.alter (fun _ => value) name := by
  cases value with
  | table entries => exact absurd ⟨entries, rfl⟩ h
  | _ => simp only [put]

theorem get?_put_of_not_isTable (h : ¬ value.IsTable) :
    (setting.put name value).get? key
      = if key = name.lower then some value else setting.get? key := by
  rw [put_of_not_isTable h, get?_alter]

theorem get?_put_table : (setting.put name (table values)).get? key
    = if key = name.lower then some (((setting.get? name.lower).getD (table [])).putAll values)
      else setting.get? key := by
  rw [put, get?_alter]

theorem get?_putAll (plain : ∀ entry ∈ values, ¬ entry.2.IsTable) :
    (setting.putAll values).get? key
      = (values.filterMap fun entry =>
          if entry.1.lower = key then some entry.2 else none).getLast?.or (setting.get? key) := by
  induction values generalizing setting with
  | nil => simp [putAll]
  | cons entry values ih =>
    obtain ⟨name, value⟩ := entry
    obtain ⟨hvalue, hvalues⟩ := List.forall_mem_cons.1 plain
    rw [putAll, ih hvalues, get?_put_of_not_isTable hvalue, getLast?_filterMap_cons]
    by_cases hkey : name.lower = key
    · rw [if_pos hkey.symm, if_pos hkey, Option.some_or]
    · rw [if_neg (Ne.symm hkey), if_neg hkey, Option.none_or]

/-! ### Setting the value at a key -/

theorem assign_name (setting value : Setting) (name : Text) :
    setting.assign ⟨name, []⟩ value = setting.put name value := by
  rw [assign, assignBelow]

theorem assign_child (setting value : Setting) (holder name : Text) :
    setting.assign ⟨holder, [.child name]⟩ value
      = setting.alter (fun old => (old.getD null).put name value) holder := by
  rw [assign, assignBelow]
  · rfl
  · simp

end GrammarBrew.Setting
