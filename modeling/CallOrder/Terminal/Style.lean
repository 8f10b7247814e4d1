/-! Colours and weights of text on a terminal. -/
namespace CallOrder.Terminal

/-- How a text stands out. -/
inductive Style where
  | green
  | yellow
  | blue
  | cyan
  | brightRed
  | darkRed
  | bold
  | dimmed

/-- The numbers of the control sequences before and after a text. A colour ends in the colour that
was set before any other, and a weight in plain text. -/
def Style.codes : Style → String × String
  | .green => ("92", "39")
  | .yellow => ("93", "39")
  | .blue => ("94", "39")
  | .cyan => ("36", "39")
  | .brightRed => ("91", "39")
  | .darkRed => ("31", "39")
  | .bold => ("1", "0")
  | .dimmed => ("2", "0")

def sequence (code : String) : String := "\x1b[" ++ code ++ "m"

def Style.paint (style : Style) (text : String) : String :=
  sequence style.codes.1 ++ text ++ sequence style.codes.2

def Style.paintBold (style : Style) (text : String) : String := Style.bold.paint (style.paint text)

end CallOrder.Terminal
