import PseudoTerminal.Shell.Grammar

/-! The text of a command as a list of jobs shows it: words as they were written, with quotes around what is
quoted, and command substitutions without what is in them. -/

namespace PseudoTerminal.Shell

def Part.isQuoted : Part → Bool
  | .text _ quoted | .parameter _ _ _ quoted | .command _ quoted | .output _ quoted
  | .arithmetic _ quoted => quoted

/-- The signs of a use between the name and the word. -/
def Use.sign : Use → String
  | .value | .length | .bad => ""
  | .orDefault colon => if colon then ":-" else "-"
  | .orAssign colon => if colon then ":=" else "="
  | .orFail colon => if colon then ":?" else "?"
  | .ifSet colon => if colon then ":+" else "+"
  | .withoutStart longest => if longest then "##" else "#"
  | .withoutEnd longest => if longest then "%%" else "%"

mutual

/-- A part without quotes around it. -/
def Part.bareText : Part → Octets
  | .text t _ => t
  | .command _ _ | .output _ _ => Octets.ofString "$(...)"
  | .arithmetic expression _ =>
    Octets.ofString "$((" ++ partsText false expression ++ Octets.ofString "))"
  | .parameter name use word _ =>
    Octets.ofString (if use = .length then "$\x7b#" else "$\x7b") ++ name ++ Octets.ofString use.sign
      ++ partsText false word ++ [125]

/-- Parts with a quote wherever quoting begins or ends. -/
def partsText (inQuotes : Bool) : List Part → Octets
  | [] => if inQuotes then [34] else []
  | p :: ps => (if p.isQuoted != inQuotes then [34] else []) ++ p.bareText ++ partsText p.isQuoted ps

end

def wordText (w : Word) : Octets := partsText false w

def Direction.sign : Direction → String
  | .input => "<"
  | .output => ">"
  | .overwrite => ">|"
  | .append => ">>"
  | .both => "<>"
  | .duplicate => ">&"
  | .text => "<<"

def Redirect.listing (r : Redirect) : Octets :=
  match r.direction with
  | .text => Octets.ofString "<<..."
  | .duplicate =>
    Octets.ofNat r.number ++ Octets.ofString (if r.number = 0 then "<&" else ">&") ++ wordText r.word
  | d => Octets.ofNat r.number ++ Octets.ofString d.sign ++ wordText r.word

/-- Words with blanks between them. -/
def wordsText (ws : List Word) : Octets := Octets.joinWith 32 (ws.map wordText)

namespace Command

def between (sign : String) (a b : Octets) : Octets := a ++ Octets.ofString sign ++ b

mutual

def listing : Command → Octets
  | nothing => []
  | simple _ _ words redirects => wordsText words ++ redirects.flatMap fun r => 32 :: r.listing
  | pipeline negated stages => (if negated then [33] else []) ++ stagesListing stages
  | both a b => between " && " a.listing b.listing
  | either a b => between " || " a.listing b.listing
  | sequence a b => between "; " a.listing b.listing
  | background c => c.listing
  | subshell c => 40 :: c.listing ++ [41]
  | redirected c _ => c.listing
  | choice condition yes no =>
    let ending := match no with
      | nothing => []
      | no => Octets.ofString "; else " ++ no.listing
    Octets.ofString "if " ++ between "; then " condition.listing yes.listing ++ ending
      ++ Octets.ofString "; fi"
  | loop until_ condition body =>
    Octets.ofString (if until_ then "until " else "while ")
      ++ between "; do " condition.listing body.listing ++ Octets.ofString "; done"
  | each name words body =>
    Octets.ofString "for " ++ name ++ Octets.ofString " in "
      ++ between "; do " (wordsText (words.getD [])) body.listing ++ Octets.ofString "; done"
  | select word arms =>
    Octets.ofString "case " ++ wordText word ++ Octets.ofString " in " ++ armsListing arms
      ++ Octets.ofString "esac"
  | define name _ => name ++ Octets.ofString "() \x7b ... \x7d"

def stagesListing : List Command → Octets
  | [] => []
  | [c] => c.listing
  | c :: cs => between " | " c.listing (stagesListing cs)

def armsListing : List (List Word × Command) → Octets
  | [] => []
  | (patterns, body) :: rest =>
    (patterns.head?.map wordText).getD [] ++ Octets.ofString ") " ++ body.listing
      ++ Octets.ofString ";; " ++ armsListing rest

end

end Command

end PseudoTerminal.Shell
