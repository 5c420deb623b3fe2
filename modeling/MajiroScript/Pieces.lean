/-! Cutting a list at separators. -/
namespace MajiroScript

def cut (isSeparator : α → Bool) (items : List α) : List (List α) :=
  items.foldr (fun item pieces =>
    if isSeparator item then [] :: pieces
    else
      match pieces with
      | [] => [[item]]
      | piece :: rest => (item :: piece) :: rest) [[]]

def pieces (isSeparator : α → Bool) (items : List α) : List (List α) :=
  (cut isSeparator items).filter fun piece => !piece.isEmpty

end MajiroScript
