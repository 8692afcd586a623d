import SensorBus.RegisterFile

namespace SensorBus.RegisterFile

variable {n m : Nat}

theorem slice_congr (file : RegisterFile n) {start start' : Nat} (same : start % n = start' % n)
    (count : Nat) : file.slice start count = file.slice start' count := by
  induction count generalizing start start' with
  | zero => rfl
  | succ count ih =>
    have next : (start + 1) % n = (start' + 1) % n := by rw [Nat.add_mod, same, ← Nat.add_mod]
    simp only [slice, same, ih next]

@[simp] theorem length_slice (file : RegisterFile n) (start count : Nat) :
    (file.slice start count).length = count := by
  induction count generalizing start with
  | zero => rfl
  | succ count ih => simp [slice, ih]

theorem load_congr (file : RegisterFile n) {start start' : Nat} (same : start % n = start' % n)
    (bytes : List UInt8) : file.load start bytes = file.load start' bytes := by
  induction bytes generalizing file start start' with
  | nil => rfl
  | cons byte rest ih =>
    have next : (start + 1) % n = (start' + 1) % n := by rw [Nat.add_mod, same, ← Nat.add_mod]
    simp only [load, same]
    exact ih _ next

theorem getD_of_lt (file : RegisterFile n) {i : Nat} (lt : i < n) : file.getD i 0 = file[i] := by
  rw [Vector.getD, Array.getD_eq_getD_getElem?]
  simp [lt]

theorem setIfInBounds_of_lt (file : RegisterFile n) {i : Nat} (lt : i < n) (byte : UInt8) :
    file.setIfInBounds i byte = file.set i byte lt := by
  apply Vector.ext
  intro j lt'
  rw [Vector.getElem_setIfInBounds, Vector.getElem_set]

theorem getD_set (file : RegisterFile n) {i : Nat} (lt : i < n) (byte : UInt8) (j : Nat) :
    (file.setIfInBounds i byte).getD j 0 = if i = j then byte else file.getD j 0 := by
  simp only [Vector.getD, Vector.setIfInBounds, Array.getD_eq_getD_getElem?,
    Array.getElem?_setIfInBounds, Vector.size_toArray, lt, if_true]
  split <;> rfl

theorem getD_set_of_ne (file : RegisterFile n) {i j : Nat} (ne : i ≠ j) (byte : UInt8) :
    (file.setIfInBounds i byte).getD j 0 = file.getD j 0 := by
  simp only [Vector.getD, Vector.setIfInBounds, Array.getD_eq_getD_getElem?]
  rw [Array.getElem?_setIfInBounds_ne ne]

theorem getD_load_of_ne (file : RegisterFile n) {start j : Nat} {bytes : List UInt8}
    (apart : ∀ i < bytes.length, (start + i) % n ≠ j) :
    (file.load start bytes).getD j 0 = file.getD j 0 := by
  induction bytes generalizing file start with
  | nil => rfl
  | cons byte rest ih =>
    have here : start % n ≠ j := apart 0 (Nat.succ_pos _)
    rw [load, ih]
    · exact file.getD_set_of_ne here byte
    · intro i lt
      have next := apart (i + 1) (Nat.succ_lt_succ lt)
      rwa [← Nat.add_assoc, Nat.add_right_comm] at next

theorem getD_load (file : RegisterFile n) (start : Nat) {bytes : List UInt8}
    (fits : bytes.length ≤ n) {i : Nat} (lt : i < bytes.length) :
    (file.load start bytes).getD ((start + i) % n) 0 = bytes[i] := by
  induction bytes generalizing file start i with
  | nil => cases lt
  | cons byte rest ih =>
    rw [List.length_cons] at fits
    cases i with
    | zero =>
      -- The rest goes to other places, for a load that fits never comes round to its start.
      have apart : ∀ i < rest.length, (start + 1 + i) % n ≠ start % n := by
        intro i lt same
        have zero : (start + 1 + i - start) % n = 0 := Nat.sub_mod_eq_zero_of_mod_eq same
        rw [Nat.mod_eq_of_lt (by omega)] at zero
        omega
      rw [Nat.add_zero, load, getD_load_of_ne _ apart,
        getD_set _ (Nat.mod_lt start (by omega)), if_pos rfl, List.getElem_cons_zero]
    | succ i =>
      have next : start + (i + 1) = start + 1 + i := by omega
      rw [next, load, ih _ _ (by omega) (Nat.lt_of_succ_lt_succ lt), List.getElem_cons_succ]

theorem getElem?_slice (file : RegisterFile n) (start : Nat) {count i : Nat} (lt : i < count) :
    (file.slice start count)[i]? = some (file.getD ((start + i) % n) 0) := by
  induction count generalizing start i with
  | zero => cases lt
  | succ count ih =>
    cases i with
    | zero => rfl
    | succ i =>
      have next : start + (i + 1) = start + 1 + i := by omega
      rw [slice, List.getElem?_cons_succ, ih _ (Nat.lt_of_succ_lt_succ lt), next]

theorem slice_load_self (file : RegisterFile n) (start : Nat) {bytes : List UInt8}
    (fits : bytes.length ≤ n) : (file.load start bytes).slice start bytes.length = bytes := by
  apply List.ext_getElem?
  intro i
  by_cases lt : i < bytes.length
  · rw [getElem?_slice _ _ lt, getD_load file start fits lt, List.getElem?_eq_getElem lt]
  · rw [List.getElem?_eq_none (by rw [length_slice]; omega), List.getElem?_eq_none (by omega)]

def Begins (whole : RegisterFile n) (part : RegisterFile m) : Prop :=
  m ≤ n ∧ ∀ i < m, whole.getD i 0 = part.getD i 0

namespace Begins

variable {whole : RegisterFile n} {part : RegisterFile m} {start : Nat}

theorem slice (begins : whole.Begins part) {count : Nat} (inside : start + count ≤ m) :
    whole.slice start count = part.slice start count := by
  induction count generalizing start with
  | zero => rfl
  | succ count ih =>
    obtain ⟨le, same⟩ := begins
    have here : start < m := by omega
    have rest : start + 1 + count ≤ m := by omega
    simp only [RegisterFile.slice]
    rw [Nat.mod_eq_of_lt here, Nat.mod_eq_of_lt (Nat.lt_of_lt_of_le here le), same start here,
      ih rest]

theorem load (begins : whole.Begins part) {bytes : List UInt8} (inside : start + bytes.length ≤ m) :
    (whole.load start bytes).Begins (part.load start bytes) := by
  induction bytes generalizing whole part start with
  | nil => exact begins
  | cons byte rest ih =>
    obtain ⟨le, same⟩ := begins
    rw [List.length_cons] at inside
    have here : start < m := by omega
    simp only [RegisterFile.load]
    rw [Nat.mod_eq_of_lt here, Nat.mod_eq_of_lt (Nat.lt_of_lt_of_le here le)]
    apply ih
    · refine ⟨le, fun i lt => ?_⟩
      rw [getD_set _ here, getD_set _ (Nat.lt_of_lt_of_le here le), same i lt]
    · omega

end Begins

end SensorBus.RegisterFile
