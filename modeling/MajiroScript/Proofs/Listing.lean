import MajiroScript.Workspace

/-! Listings as bytes.  The bytes of a text are those of its parts one behind the
other, so a listing is written in full by writing its lines. -/
namespace MajiroScript

theorem toList_loop_eq (bytes : ByteArray) (index : Nat) (before : List UInt8) :
    ByteArray.toList.loop bytes index before =
      before.reverse ++ bytes.data.toList.drop index := by
  induction index, before using ByteArray.toList.loop.induct bytes with
  | case1 index before hinside ih =>
      have hlength : index < bytes.data.toList.length := hinside
      rw [ByteArray.toList.loop, if_pos hinside, ih, List.drop_eq_getElem_cons hlength]
      simp [ByteArray.get!, hinside]
  | case2 index before hend =>
      have hlength : bytes.data.toList.length ≤ index := Nat.le_of_not_lt hend
      rw [ByteArray.toList.loop, if_neg hend, List.drop_of_length_le hlength, List.append_nil]

theorem toList_toUTF8 (text : String) : text.toUTF8.toList = text.toByteArray.data.toList := by
  rw [ByteArray.toList, toList_loop_eq]
  rfl

theorem toList_toUTF8_append (front behind : String) :
    (front ++ behind).toUTF8.toList = front.toUTF8.toList ++ behind.toUTF8.toList := by
  simp only [toList_toUTF8, String.toByteArray_append, ByteArray.toList_data_append]

theorem toList_toUTF8_join (texts : List String) :
    (String.join texts).toUTF8.toList = (texts.map (·.toUTF8.toList)).flatten := by
  induction texts with
  | nil =>
      rw [toList_toUTF8]
      rfl
  | cons text texts ih =>
      rw [String.join_cons, toList_toUTF8_append, ih, List.map_cons, List.flatten_cons]

theorem Container.flatten_listingPieces (container : Container) :
    container.listingPieces.flatten = container.listingBytes := by
  simp only [listingBytes, listing, MajiroScript.listing, toList_toUTF8_join, listingPieces,
    List.map_map, Function.comp_def]

end MajiroScript
