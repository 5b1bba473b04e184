/-!
The default operator table, and the names that are written as function macros.
-/

namespace Untypeset.Symbol

/-- what an operator's text or token becomes: a space on either side of binary operators and relations, none around
fences, nothing for the invisible operators and for the marks that the structure around them draws -/
def operatorEntries : List (String × String) :=
  [("=", " = "), ("+", " + "), ("-", " - "), ("−", " - "), ("×", " \\times "), ("\\times", " \\times "),
   ("÷", " \\div "), ("\\div", " \\div "), ("±", " \\pm "), ("\\pm", " \\pm "), ("*", " * "), ("<", " < "),
   (">", " > "), ("≤", " \\leq "), ("\\leq", " \\leq "), ("≥", " \\geq "), ("\\geq", " \\geq "),
   ("≠", " \\neq "), ("\\neq", " \\neq "), ("≈", " \\approx "), ("\\approx", " \\approx "),
   ("→", " \\rightarrow "), ("\\rightarrow", " \\rightarrow "), ("(", "("), (")", ")"), ("[", "["),
   ("]", "]"), ("\x7b", "\\\x7b"), ("\x7d", "\\\x7d"), ("\\\x7b", "\\\x7b"), ("\\\x7d", "\\\x7d"), ("|", "|"),
   ("'", "'"), ("′", "'"), ("", ""), ("\u2061", ""), ("\u2062", ""), ("\u2063", ""), ("\u2064", ""),
   ("\u20d7", ""), ("\u0305", "")]

/-- the names of the standard functions -/
def functionNames : List String :=
  ["sin", "cos", "tan", "cot", "sec", "csc", "arcsin", "arccos", "arctan", "arccot", "arcsec", "arccsc",
   "sinh", "cosh", "tanh", "coth", "sech", "csch", "log", "ln", "exp", "lim", "max", "min", "sup", "inf",
   "det", "arg", "deg", "gcd"]

end Untypeset.Symbol
