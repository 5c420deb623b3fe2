import MajiroScript.Keystream

/-! How images are hidden on disk: one marker byte of the header is combined
with a constant and the body with the key.  Doing it twice restores the image. -/
namespace MajiroScript.Obfuscation

def markerOffset : Nat := 9
def markerMask : UInt8 := 0x17

/-- Hides a plain image or reveals a hidden one.  An image that ends before its
body only has the marker changed. -/
def toggle (headerLength : Nat) (key : Keystream) (image : Bytes) : Bytes :=
  let marked := image.modify markerOffset (· ^^^ markerMask)
  marked.take headerLength ++ key.apply (marked.drop headerLength)

@[simp] theorem length_toggle (headerLength : Nat) (key : Keystream) (image : Bytes) :
    (toggle headerLength key image).length = image.length := by
  unfold toggle
  simp only [List.length_append, Keystream.length_apply, List.length_take, List.length_drop,
    List.length_modify]
  omega

end MajiroScript.Obfuscation
