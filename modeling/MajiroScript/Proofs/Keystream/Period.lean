import MajiroScript.Container

/-! Which part of a key counts.  A key works like its first period, filled up
with zeros, and keys that work alike have the same first period. -/
namespace MajiroScript.Keystream

def onePeriod (key : Keystream) : Keystream :=
  ofBytes (key.toBytes.take period ++ List.replicate (period - key.size) 0)

theorem keyAt_eq_getD (key : Keystream) (counter : Nat) :
    key.keyAt counter = key.toBytes[counter % period]?.getD 0 := by
  rw [keyAt, toBytes, Array.getD_eq_getD_getElem?, Array.getElem?_toList]

theorem size_onePeriod (key : Keystream) : key.onePeriod.size = period := by
  rw [← length_toBytes, onePeriod, toBytes_ofBytes, List.length_append, List.length_take,
    length_toBytes, List.length_replicate]
  omega

theorem getElem?_onePeriod (key : Keystream) {place : Nat} (hplace : place < period) :
    key.onePeriod.toBytes[place]? = some (key.keyAt place) := by
  rw [keyAt_eq_getD, Nat.mod_eq_of_lt hplace, onePeriod, toBytes_ofBytes, ← length_toBytes]
  by_cases hinside : place < key.toBytes.length
  · rw [List.getElem?_append_left (by rw [List.length_take]; omega),
      List.getElem?_take_of_lt hplace, List.getElem?_eq_getElem hinside, Option.getD_some]
  · have houtside : key.toBytes.length ≤ place := Nat.not_lt.mp hinside
    have hshort : (key.toBytes.take period).length = key.toBytes.length := by
      rw [List.length_take]
      omega
    rw [List.getElem?_append_right (hshort ▸ houtside), hshort,
      List.getElem?_replicate_of_lt (by omega), List.getElem?_eq_none houtside, Option.getD_none]

theorem getElem?_onePeriod_mod (key : Keystream) (counter : Nat) :
    key.onePeriod.toBytes[counter % period]? = some (key.keyAt counter) := by
  rw [getElem?_onePeriod key (Nat.mod_lt counter (by decide)), keyAt_eq_getD, Nat.mod_mod,
    ← keyAt_eq_getD]

theorem toNat_and_mask (counter : UInt64) : (counter &&& 0x3FF).toNat = counter.toNat % period := by
  rw [UInt64.toNat_and]
  exact Nat.and_two_pow_sub_one_eq_mod counter.toNat 10

@[simp] theorem keyAt_onePeriod (key : Keystream) (counter : Nat) :
    key.onePeriod.keyAt counter = key.keyAt counter := by
  rw [keyAt_eq_getD key.onePeriod, getElem?_onePeriod_mod, Option.getD_some]

@[simp] theorem apply_onePeriod (key : Keystream) (data : Bytes) :
    key.onePeriod.apply data = key.apply data := by
  simp only [apply, keyAt_onePeriod]

@[simp] theorem toggle_onePeriod (headerLength : Nat) (key : Keystream) (image : Bytes) :
    Obfuscation.toggle headerLength key.onePeriod image =
      Obfuscation.toggle headerLength key image := by
  simp only [Obfuscation.toggle, apply_onePeriod]

theorem ofImage_onePeriod (codec : Codec) (key : Keystream) (image : Bytes) :
    Container.ofImage codec key.onePeriod image = Container.ofImage codec key image := by
  simp only [Container.ofImage, Opening.ofImage, toggle_onePeriod]

theorem assemble_onePeriod (container : Container) (key : Keystream) (script : Script) :
    container.assemble key.onePeriod script = container.assemble key script := by
  simp only [Container.assemble, toggle_onePeriod]

theorem ext_onePeriod {key other : Keystream}
    (h : ∀ place < period, key.keyAt place = other.keyAt place) :
    key.onePeriod = other.onePeriod := by
  apply toBytes_inj.mp
  apply List.ext_getElem?
  intro place
  by_cases hplace : place < period
  · rw [getElem?_onePeriod key hplace, getElem?_onePeriod other hplace, h place hplace]
  · have hlong : ∀ key : Keystream, key.onePeriod.toBytes.length ≤ place := fun key => by
      rw [length_toBytes, size_onePeriod]
      exact Nat.not_lt.mp hplace
    rw [List.getElem?_eq_none (hlong key), List.getElem?_eq_none (hlong other)]

theorem getElem?_apply_zeros (key : Keystream) {place : Nat} (hplace : place < period) :
    (key.apply (List.replicate period 0))[place]? = some (key.keyAt place) := by
  -- Data of zeros shows the key.
  rw [getElem?_apply, List.getElem?_replicate_of_lt hplace, Option.map_some, UInt8.zero_xor]

/-- A key is as good as its first period, for every place, for hiding data and
images, and for opening and assembling containers.  Two keys that hide all data
alike have the same first period. -/
theorem onePeriod_suffices (key : Keystream) :
    key.onePeriod.size = period ∧
    (∀ counter, key.keyAt counter = key.onePeriod.keyAt counter ∧
      key.onePeriod.toBytes[counter % period]? = some (key.keyAt counter)) ∧
    (∀ counter : UInt64, key.onePeriod.toBytes[(counter &&& 0x3FF).toNat]? =
      some (key.keyAt counter.toNat)) ∧
    (∀ data, key.apply data = key.onePeriod.apply data) ∧
    (∀ headerLength image, Obfuscation.toggle headerLength key image =
      Obfuscation.toggle headerLength key.onePeriod image) ∧
    (∀ codec image, Container.ofImage codec key image =
      Container.ofImage codec key.onePeriod image) ∧
    (∀ (container : Container) script, container.assemble key script =
      container.assemble key.onePeriod script) ∧
    ∀ other : Keystream, (∀ data, key.apply data = other.apply data) ↔
      key.onePeriod = other.onePeriod := by
  refine ⟨key.size_onePeriod, ?_, ?_, fun data => (key.apply_onePeriod data).symm,
    fun headerLength image => (toggle_onePeriod headerLength key image).symm,
    fun codec image => (ofImage_onePeriod codec key image).symm,
    fun container script => (assemble_onePeriod container key script).symm, ?_⟩
  · intro counter
    exact ⟨(key.keyAt_onePeriod counter).symm, key.getElem?_onePeriod_mod counter⟩
  · intro counter
    rw [toNat_and_mask, getElem?_onePeriod_mod]
  · intro other
    constructor
    · intro hdata
      apply ext_onePeriod
      intro place hplace
      have hzeros := getElem?_apply_zeros key hplace
      rw [hdata, getElem?_apply_zeros other hplace] at hzeros
      exact (Option.some.inj hzeros).symm
    · intro hperiod data
      rw [← apply_onePeriod, hperiod, apply_onePeriod]

end MajiroScript.Keystream
