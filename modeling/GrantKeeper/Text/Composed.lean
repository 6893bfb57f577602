import GrantKeeper.Text.Composite
import GrantKeeper.Text.Mark

/-! The composed form of a text (Normalization Form C): each character is taken apart, the marks
after a letter are put in the order of their classes, and what makes one character is joined. -/
namespace GrantKeeper.Text

def apart : Nat → Char → List Char
  | 0, c => [c]
  | steps + 1, c =>
    match parts? c with
    | some (first, second) => apart steps first ++ [second]
    | none => [c]

/-- What a character is made of in the end. No letter has more than three marks in itself. -/
def apartFully (c : Char) : List Char := apart 3 c

/-- Puts a mark into a text, given backwards, before the marks of higher classes at its end. -/
def insertMark (mark : Char) : List Char → List Char
  | [] => [mark]
  | c :: before =>
    if combiningClass mark < combiningClass c then c :: insertMark mark before
    else mark :: c :: before

def inOrder (text : List Char) : List Char :=
  (text.foldl (fun before c =>
    if combiningClass c = 0 then c :: before else insertMark c before) []).reverse

/-- A text that is being composed, all backwards: what is finished, the letter that later marks may
join, and the marks behind it that did not. -/
structure Composer where
  finished : List Char := []
  letter : Option Char := none
  marks : List Char := []

namespace Composer

def text (composer : Composer) : List Char :=
  composer.marks ++ composer.letter.toList ++ composer.finished

/-- A mark of no higher class than the one before it stays where it is. -/
def isFree (composer : Composer) (c : Char) : Bool :=
  composer.marks.head?.all fun mark => combiningClass mark < combiningClass c

def step (composer : Composer) (c : Char) : Composer :=
  match composer.letter >>= fun letter => if composer.isFree c then joined? letter c else none with
  | some letter => { composer with letter := some letter }
  | none =>
    if combiningClass c = 0 then ⟨composer.text, some c, []⟩
    else { composer with marks := c :: composer.marks }

end Composer

def composed (text : List Char) : List Char :=
  ((inOrder (text.flatMap apartFully)).foldl Composer.step {}).text.reverse

end GrantKeeper.Text
