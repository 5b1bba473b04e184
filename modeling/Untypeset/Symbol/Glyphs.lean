/-!
The default glyph table: what a code point becomes in LaTeX. Tokens carry one space behind them, so that a control word
never runs into the letter after it; the marks and operators that are never written have the empty token.
-/

namespace Untypeset.Symbol

/-- ASCII punctuation, digits and letters -/
def asciiGlyphs : List (Nat × String) :=
  [(0x0020, " "), (0x0021, "! "), (0x0022, "\\textquotedbl\x7b\x7d "), (0x0023, "\\# "), (0x0024, "\\$ "),
   (0x0025, "\\% "), (0x0026, "\\& "), (0x0027, "' "), (0x0028, "( "), (0x0029, ") "), (0x002A, "* "),
   (0x002B, "+ "), (0x002C, ", "), (0x002D, "- "), (0x002E, ". "), (0x002F, "/ "), (0x0030, "0 "),
   (0x0031, "1 "), (0x0032, "2 "), (0x0033, "3 "), (0x0034, "4 "), (0x0035, "5 "), (0x0036, "6 "),
   (0x0037, "7 "), (0x0038, "8 "), (0x0039, "9 "), (0x003A, ": "), (0x003B, "; "), (0x003C, "< "),
   (0x003D, "= "), (0x003E, "> "), (0x003F, "? "), (0x0040, "@ "), (0x0041, "A "), (0x0042, "B "),
   (0x0043, "C "), (0x0044, "D "), (0x0045, "E "), (0x0046, "F "), (0x0047, "G "), (0x0048, "H "),
   (0x0049, "I "), (0x004A, "J "), (0x004B, "K "), (0x004C, "L "), (0x004D, "M "), (0x004E, "N "),
   (0x004F, "O "), (0x0050, "P "), (0x0051, "Q "), (0x0052, "R "), (0x0053, "S "), (0x0054, "T "),
   (0x0055, "U "), (0x0056, "V "), (0x0057, "W "), (0x0058, "X "), (0x0059, "Y "), (0x005A, "Z "),
   (0x005B, "[ "), (0x005D, "] "), (0x005E, "\\textasciicircum "), (0x005F, "\\_ "), (0x0061, "a "),
   (0x0062, "b "), (0x0063, "c "), (0x0064, "d "), (0x0065, "e "), (0x0066, "f "), (0x0067, "g "),
   (0x0068, "h "), (0x0069, "i "), (0x006A, "j "), (0x006B, "k "), (0x006C, "l "), (0x006D, "m "),
   (0x006E, "n "), (0x006F, "o "), (0x0070, "p "), (0x0071, "q "), (0x0072, "r "), (0x0073, "s "),
   (0x0074, "t "), (0x0075, "u "), (0x0076, "v "), (0x0077, "w "), (0x0078, "x "), (0x0079, "y "),
   (0x007A, "z "), (0x007B, "\\\x7b "), (0x007C, "| "), (0x007D, "\\\x7d "), (0x007E, "\\textasciitilde ")]

/-- signs of the second Latin block -/
def latinGlyphs : List (Nat × String) :=
  [(0x00B0, "° "), (0x00B1, "\\pm "), (0x00B2, "^\x7b2\x7d "), (0x00B3, "^\x7b3\x7d "),
   (0x00B9, "^\x7b1\x7d "), (0x00D7, "\\times "), (0x00F7, "\\div ")]

/-- combining diacritics, which the structure around them draws -/
def diacriticGlyphs : List (Nat × String) :=
  [(0x0305, "")]

/-- Greek letters -/
def greekGlyphs : List (Nat × String) :=
  [(0x0391, "A "), (0x0392, "B "), (0x0393, "\\Gamma "), (0x0394, "\\Delta "), (0x0395, "E "), (0x0396, "Z "),
   (0x0397, "H "), (0x0398, "\\Theta "), (0x0399, "I "), (0x039A, "K "), (0x039B, "\\Lambda "),
   (0x039C, "M "), (0x039D, "N "), (0x039E, "\\Xi "), (0x039F, "O "), (0x03A0, "\\Pi "), (0x03A1, "P "),
   (0x03A3, "\\Sigma "), (0x03A4, "T "), (0x03A5, "\\Upsilon "), (0x03A6, "\\Phi "), (0x03A7, "X "),
   (0x03A8, "\\Psi "), (0x03A9, "\\Omega "), (0x03B1, "\\alpha "), (0x03B2, "\\beta "), (0x03B3, "\\gamma "),
   (0x03B4, "\\delta "), (0x03B5, "\\epsilon "), (0x03B6, "\\zeta "), (0x03B7, "\\eta "),
   (0x03B8, "\\theta "), (0x03B9, "\\iota "), (0x03BA, "\\kappa "), (0x03BB, "\\lambda "), (0x03BC, "\\mu "),
   (0x03BD, "\\nu "), (0x03BE, "\\xi "), (0x03BF, "o "), (0x03C0, "\\pi "), (0x03C1, "\\rho "),
   (0x03C2, "\\varsigma "), (0x03C3, "\\sigma "), (0x03C4, "\\tau "), (0x03C5, "\\upsilon "),
   (0x03C6, "\\phi "), (0x03C7, "\\chi "), (0x03C8, "\\psi "), (0x03C9, "\\omega "), (0x03D1, "\\vartheta "),
   (0x03D5, "\\varphi "), (0x03D6, "\\varpi "), (0x03F0, "\\varkappa "), (0x03F1, "\\varrho "),
   (0x03F4, "\\varsigma "), (0x03F5, "\\varepsilon ")]

/-- general punctuation and the invisible operators -/
def punctuationGlyphs : List (Nat × String) :=
  [(0x2026, "\\ldots "), (0x2032, "' "), (0x2061, ""), (0x2062, ""), (0x2063, ""), (0x2064, "")]

/-- superscript and subscript digits -/
def scriptDigitGlyphs : List (Nat × String) :=
  [(0x2070, "^\x7b0\x7d "), (0x2074, "^\x7b4\x7d "), (0x2075, "^\x7b5\x7d "), (0x2076, "^\x7b6\x7d "),
   (0x2077, "^\x7b7\x7d "), (0x2078, "^\x7b8\x7d "), (0x2079, "^\x7b9\x7d "), (0x2080, "_\x7b0\x7d "),
   (0x2081, "_\x7b1\x7d "), (0x2082, "_\x7b2\x7d "), (0x2083, "_\x7b3\x7d "), (0x2084, "_\x7b4\x7d "),
   (0x2085, "_\x7b5\x7d "), (0x2086, "_\x7b6\x7d "), (0x2087, "_\x7b7\x7d "), (0x2088, "_\x7b8\x7d "),
   (0x2089, "_\x7b9\x7d ")]

/-- combining marks for symbols -/
def symbolMarkGlyphs : List (Nat × String) :=
  [(0x20D7, "")]

/-- letter-like symbols -/
def letterlikeGlyphs : List (Nat × String) :=
  [(0x2102, "\\mathbb\x7bC\x7d "), (0x2107, "\\euler "), (0x210B, "\\mathcal\x7bH\x7d "),
   (0x210C, "\\mathfrak\x7bH\x7d "), (0x2110, "\\mathcal\x7bI\x7d "), (0x2111, "\\mathfrak\x7bI\x7d "),
   (0x2112, "\\mathcal\x7bL\x7d "), (0x2115, "\\mathbb\x7bN\x7d "), (0x211A, "\\mathbb\x7bQ\x7d "),
   (0x211B, "\\mathcal\x7bR\x7d "), (0x211C, "\\mathfrak\x7bR\x7d "), (0x211D, "\\mathbb\x7bR\x7d "),
   (0x2124, "\\mathbb\x7bZ\x7d "), (0x2128, "\\mathfrak\x7bZ\x7d "), (0x212C, "\\mathcal\x7bB\x7d "),
   (0x212D, "\\mathfrak\x7bC\x7d "), (0x212F, "\x7b\\mathscr\x7be\x7d\x7d "), (0x2130, "\\mathcal\x7bE\x7d "),
   (0x2131, "\\mathcal\x7bF\x7d "), (0x2133, "\\mathcal\x7bM\x7d ")]

/-- arrows -/
def arrowGlyphs : List (Nat × String) :=
  [(0x2190, "\\leftarrow "), (0x2191, "\\uparrow "), (0x2192, "\\rightarrow "), (0x2193, "\\downarrow "),
   (0x2194, "\\leftrightarrow "), (0x2195, "\\updownarrow "), (0x2196, "\\nwarrow "), (0x2197, "\\nearrow "),
   (0x2198, "\\searrow "), (0x2199, "\\swarrow "), (0x219D, "\\rightsquigarrow "),
   (0x21A0, "\\twoheadrightarrow "), (0x21A3, "\\rightarrowtail "), (0x21A6, "\\mapsto "), (0x21B0, "\\Lsh "),
   (0x21B1, "\\Rsh "), (0x21CB, "\\leftrightharpoons "), (0x21CC, "\\rightleftharpoons "),
   (0x21D0, "\\Leftarrow "), (0x21D1, "\\Uparrow "), (0x21D2, "\\Rightarrow "), (0x21D3, "\\Downarrow "),
   (0x21D4, "\\Leftrightarrow "), (0x21D5, "\\Updownarrow ")]

/-- mathematical operators and relations -/
def operatorGlyphs : List (Nat × String) :=
  [(0x2200, "\\forall "), (0x2202, "\\partial "), (0x2203, "\\exists "), (0x2205, "\\emptyset "),
   (0x2207, "\\nabla "), (0x2208, "\\in "), (0x2209, "\\notin "), (0x220B, "\\ni "), (0x220C, "\\not\\ni "),
   (0x220F, "\\prod "), (0x2211, "\\sum "), (0x2212, "- "), (0x2213, "\\mp "), (0x2216, "\\setminus "),
   (0x2218, "\\circ "), (0x221A, ""), (0x221D, "\\propto "), (0x221E, "\\infty "), (0x2220, "\\angle "),
   (0x2221, "\\measuredangle "), (0x2222, "\\sphericalangle "), (0x2223, "\\mid "), (0x2225, "\\parallel "),
   (0x2227, "\\wedge "), (0x2228, "\\vee "), (0x2229, "\\cap "), (0x222A, "\\cup "), (0x222B, "\\int "),
   (0x222C, "\\iint "), (0x222D, "\\iiint "), (0x222E, "\\oint "), (0x2231, "\\oiint "),
   (0x2232, "\\oiiint "), (0x2234, "\\therefore "), (0x2235, "\\because "), (0x2236, "\\ratio "),
   (0x2237, "\\Colon "), (0x2238, "\\dotminus "), (0x2239, "\\excess "), (0x223B, "\\homothetic "),
   (0x223D, "\\backsim "), (0x223E, "\\lazysinv "), (0x2240, "\\wr "), (0x2241, "\\nsim "),
   (0x2242, "\\eqsim "), (0x2243, "\\simeq "), (0x2245, "\\cong "), (0x2246, "\\approxeq "),
   (0x2247, "\\ncong "), (0x2248, "\\approx "), (0x2249, "\\not\\approx "), (0x224D, "\\asymp "),
   (0x224F, "\\bumpeq "), (0x2250, "\\doteq "), (0x2251, "\\Doteq "), (0x2254, "\\coloneq "),
   (0x2255, "\\eqcolon "), (0x2256, "\\eqcirc "), (0x2257, "\\circeq "), (0x2258, "\\qed "),
   (0x2259, "\\stackrel\x7b?\x7d\x7b=\x7d "), (0x225A, "\\stackrel\x7b!\x7d\x7b=\x7d "),
   (0x225B, "\\stackrel\x7b*\x7d\x7b=\x7d "), (0x225C, "\\triangleq "),
   (0x225E, "\\stackrel\x7bm\x7d\x7b=\x7d "), (0x2260, "\\neq "), (0x2261, "\\equiv "), (0x2264, "\\leq "),
   (0x2265, "\\geq "), (0x2266, "\\leqq "), (0x2267, "\\geqq "), (0x226A, "\\ll "), (0x226B, "\\gg "),
   (0x226C, "\\between "), (0x226E, "\\nless "), (0x226F, "\\ngtr "), (0x2270, "\\nleq "),
   (0x2271, "\\ngeq "), (0x2272, "\\lesssim "), (0x2273, "\\gtrsim "), (0x2276, "\\lessgtr "),
   (0x2277, "\\gtrless "), (0x227A, "\\prec "), (0x227B, "\\succ "), (0x227C, "\\preceq "),
   (0x227D, "\\succeq "), (0x227E, "\\precsim "), (0x227F, "\\succsim "), (0x2282, "\\subset "),
   (0x2283, "\\supset "), (0x2284, "\\not\\subset "), (0x2285, "\\not\\supset "), (0x2286, "\\subseteq "),
   (0x2287, "\\supseteq "), (0x2288, "\\nsubseteq "), (0x2289, "\\nsupseteq "), (0x228A, "\\subsetneq "),
   (0x228B, "\\supsetneq "), (0x2295, "\\oplus "), (0x2296, "\\ominus "), (0x2297, "\\otimes "),
   (0x2298, "\\oslash "), (0x2299, "\\odot "), (0x229A, "\\circledcirc "), (0x229B, "\\circledast "),
   (0x229D, "\\circleddash "), (0x229E, "\\boxplus "), (0x229F, "\\boxminus "), (0x22A0, "\\boxtimes "),
   (0x22A1, "\\boxdot "), (0x22A2, "\\vdash "), (0x22A3, "\\dashv "), (0x22A8, "\\models "),
   (0x22A9, "\\vDash "), (0x22AA, "\\Vdash "), (0x22AB, "\\VDash "), (0x22B2, "\\triangleleft "),
   (0x22B3, "\\triangleright "), (0x22B4, "\\trianglelefteq "), (0x22B5, "\\trianglerighteq "),
   (0x22B8, "\\multimap "), (0x22C0, "\\bigwedge "), (0x22C1, "\\bigvee "), (0x22C2, "\\bigcap "),
   (0x22C3, "\\bigcup "), (0x22C5, "\\cdot "), (0x22C6, "\\star "), (0x22C7, "\\divideontimes "),
   (0x22C8, "\\bowtie "), (0x22C9, "\\ltimes "), (0x22CA, "\\rtimes "), (0x22CB, "\\leftthreetimes "),
   (0x22CC, "\\rightthreetimes "), (0x22CE, "\\curlyvee "), (0x22CF, "\\curlywedge "), (0x22D0, "\\Subset "),
   (0x22D1, "\\Supset "), (0x22D2, "\\Cap "), (0x22D3, "\\Cup "), (0x22D8, "\\lll "), (0x22D9, "\\ggg "),
   (0x22DA, "\\lesseqgtr "), (0x22DB, "\\gtreqless ")]

/-- technical symbols -/
def technicalGlyphs : List (Nat × String) :=
  [(0x2300, "\\diameter "), (0x2302, "\\house "), (0x2308, "\\lceil "), (0x2309, "\\rceil "),
   (0x230A, "\\lfloor "), (0x230B, "\\rfloor "), (0x2310, "\\invnot "), (0x2320, "\\top "),
   (0x2321, "\\bot "), (0x2322, "\\frown "), (0x2323, "\\smile "), (0x2329, "\\langle "),
   (0x232A, "\\rangle ")]

/-- mathematical brackets -/
def bracketGlyphs : List (Nat × String) :=
  [(0x2713, "\\checkmark "), (0x27E8, "\\langle "), (0x27E9, "\\rangle "), (0x2983, "\\\x7b| "),
   (0x2984, "|\\\x7d ")]

/-- bold letters -/
def boldGlyphs : List (Nat × String) :=
  [(0x1D400, "\\mathbf\x7bA\x7d "), (0x1D401, "\\mathbf\x7bB\x7d "), (0x1D402, "\\mathbf\x7bC\x7d "),
   (0x1D403, "\\mathbf\x7bD\x7d "), (0x1D404, "\\mathbf\x7bE\x7d "), (0x1D405, "\\mathbf\x7bF\x7d "),
   (0x1D406, "\\mathbf\x7bG\x7d "), (0x1D407, "\\mathbf\x7bH\x7d "), (0x1D408, "\\mathbf\x7bI\x7d "),
   (0x1D409, "\\mathbf\x7bJ\x7d "), (0x1D40A, "\\mathbf\x7bK\x7d "), (0x1D40B, "\\mathbf\x7bL\x7d "),
   (0x1D40C, "\\mathbf\x7bM\x7d "), (0x1D40D, "\\mathbf\x7bN\x7d "), (0x1D40E, "\\mathbf\x7bO\x7d "),
   (0x1D40F, "\\mathbf\x7bP\x7d "), (0x1D410, "\\mathbf\x7bQ\x7d "), (0x1D411, "\\mathbf\x7bR\x7d "),
   (0x1D412, "\\mathbf\x7bS\x7d "), (0x1D413, "\\mathbf\x7bT\x7d "), (0x1D414, "\\mathbf\x7bU\x7d "),
   (0x1D415, "\\mathbf\x7bV\x7d "), (0x1D416, "\\mathbf\x7bW\x7d "), (0x1D417, "\\mathbf\x7bX\x7d "),
   (0x1D418, "\\mathbf\x7bY\x7d "), (0x1D419, "\\mathbf\x7bZ\x7d "), (0x1D422, "\x7b\\mathbf\x7bi\x7d\x7d "),
   (0x1D423, "\x7b\\mathbf\x7bj\x7d\x7d "), (0x1D424, "\x7b\\mathbf\x7bk\x7d\x7d ")]

/-- italic letters -/
def italicGlyphs : List (Nat × String) :=
  [(0x1D434, "A "), (0x1D435, "B "), (0x1D436, "C "), (0x1D437, "D "), (0x1D438, "E "), (0x1D439, "F "),
   (0x1D43A, "G "), (0x1D43B, "H "), (0x1D43C, "I "), (0x1D43D, "J "), (0x1D43E, "K "), (0x1D43F, "L "),
   (0x1D440, "M "), (0x1D441, "N "), (0x1D442, "O "), (0x1D443, "P "), (0x1D444, "Q "), (0x1D445, "R "),
   (0x1D446, "S "), (0x1D447, "T "), (0x1D448, "U "), (0x1D449, "V "), (0x1D44A, "W "), (0x1D44B, "X "),
   (0x1D44C, "Y "), (0x1D44D, "Z "), (0x1D44E, "a "), (0x1D44F, "b "), (0x1D450, "c "), (0x1D451, "d "),
   (0x1D452, "e "), (0x1D453, "f "), (0x1D454, "g "), (0x1D455, "h "), (0x1D456, "i "), (0x1D457, "j "),
   (0x1D458, "k "), (0x1D459, "l "), (0x1D45A, "m "), (0x1D45B, "n "), (0x1D45C, "o "), (0x1D45D, "p "),
   (0x1D45E, "q "), (0x1D45F, "r "), (0x1D460, "s "), (0x1D461, "t "), (0x1D462, "u "), (0x1D463, "v "),
   (0x1D464, "w "), (0x1D465, "x "), (0x1D466, "y "), (0x1D467, "z ")]

/-- script letters -/
def scriptGlyphs : List (Nat × String) :=
  [(0x1D49C, "\\mathcal\x7bA\x7d "), (0x1D49E, "\\mathcal\x7bC\x7d "), (0x1D49F, "\\mathcal\x7bD\x7d "),
   (0x1D4A2, "\\mathcal\x7bG\x7d "), (0x1D4A5, "\\mathcal\x7bJ\x7d "), (0x1D4A6, "\\mathcal\x7bK\x7d "),
   (0x1D4A9, "\\mathcal\x7bN\x7d "), (0x1D4AA, "\\mathcal\x7bO\x7d "), (0x1D4AB, "\\mathcal\x7bP\x7d "),
   (0x1D4AC, "\\mathcal\x7bQ\x7d "), (0x1D4AE, "\\mathcal\x7bS\x7d "), (0x1D4AF, "\\mathcal\x7bT\x7d "),
   (0x1D4B0, "\\mathcal\x7bU\x7d "), (0x1D4B1, "\\mathcal\x7bV\x7d "), (0x1D4B2, "\\mathcal\x7bW\x7d "),
   (0x1D4B3, "\\mathcal\x7bX\x7d "), (0x1D4B4, "\\mathcal\x7bY\x7d "), (0x1D4B5, "\\mathcal\x7bZ\x7d ")]

/-- Fraktur letters -/
def frakturGlyphs : List (Nat × String) :=
  [(0x1D504, "\\mathfrak\x7bA\x7d "), (0x1D505, "\\mathfrak\x7bB\x7d "), (0x1D507, "\\mathfrak\x7bD\x7d "),
   (0x1D508, "\\mathfrak\x7bE\x7d "), (0x1D509, "\\mathfrak\x7bF\x7d "), (0x1D50A, "\\mathfrak\x7bG\x7d "),
   (0x1D50D, "\\mathfrak\x7bJ\x7d "), (0x1D50E, "\\mathfrak\x7bK\x7d "), (0x1D50F, "\\mathfrak\x7bL\x7d "),
   (0x1D510, "\\mathfrak\x7bM\x7d "), (0x1D511, "\\mathfrak\x7bN\x7d "), (0x1D512, "\\mathfrak\x7bO\x7d "),
   (0x1D513, "\\mathfrak\x7bP\x7d "), (0x1D514, "\\mathfrak\x7bQ\x7d "), (0x1D516, "\\mathfrak\x7bS\x7d "),
   (0x1D517, "\\mathfrak\x7bT\x7d "), (0x1D518, "\\mathfrak\x7bU\x7d "), (0x1D519, "\\mathfrak\x7bV\x7d "),
   (0x1D51A, "\\mathfrak\x7bW\x7d "), (0x1D51B, "\\mathfrak\x7bX\x7d "), (0x1D51C, "\\mathfrak\x7bY\x7d "),
   (0x1D51E, "\\mathfrak\x7ba\x7d "), (0x1D51F, "\\mathfrak\x7bb\x7d "), (0x1D520, "\\mathfrak\x7bc\x7d "),
   (0x1D521, "\\mathfrak\x7bd\x7d "), (0x1D522, "\\mathfrak\x7be\x7d "), (0x1D523, "\\mathfrak\x7bf\x7d "),
   (0x1D524, "\\mathfrak\x7bg\x7d "), (0x1D525, "\\mathfrak\x7bh\x7d "), (0x1D526, "\\mathfrak\x7bi\x7d "),
   (0x1D527, "\\mathfrak\x7bj\x7d "), (0x1D528, "\\mathfrak\x7bk\x7d "), (0x1D529, "\\mathfrak\x7bl\x7d "),
   (0x1D52A, "\\mathfrak\x7bm\x7d "), (0x1D52B, "\\mathfrak\x7bn\x7d "), (0x1D52C, "\\mathfrak\x7bo\x7d "),
   (0x1D52D, "\\mathfrak\x7bp\x7d "), (0x1D52E, "\\mathfrak\x7bq\x7d "), (0x1D52F, "\\mathfrak\x7br\x7d "),
   (0x1D530, "\\mathfrak\x7bs\x7d "), (0x1D531, "\\mathfrak\x7bt\x7d "), (0x1D532, "\\mathfrak\x7bu\x7d "),
   (0x1D533, "\\mathfrak\x7bv\x7d "), (0x1D534, "\\mathfrak\x7bw\x7d "), (0x1D535, "\\mathfrak\x7bx\x7d "),
   (0x1D536, "\\mathfrak\x7by\x7d "), (0x1D537, "\\mathfrak\x7bz\x7d ")]

/-- double-struck letters -/
def doubleStruckGlyphs : List (Nat × String) :=
  [(0x1D538, "\\mathbb\x7bA\x7d "), (0x1D539, "\\mathbb\x7bB\x7d "), (0x1D53B, "\\mathbb\x7bD\x7d "),
   (0x1D53C, "\\mathbb\x7bE\x7d "), (0x1D53D, "\\mathbb\x7bF\x7d "), (0x1D53E, "\\mathbb\x7bG\x7d "),
   (0x1D540, "\\mathbb\x7bI\x7d "), (0x1D541, "\\mathbb\x7bJ\x7d "), (0x1D542, "\\mathbb\x7bK\x7d "),
   (0x1D543, "\\mathbb\x7bL\x7d "), (0x1D544, "\\mathbb\x7bM\x7d "), (0x1D546, "\\mathbb\x7bO\x7d "),
   (0x1D54A, "\\mathbb\x7bS\x7d "), (0x1D54B, "\\mathbb\x7bT\x7d "), (0x1D54C, "\\mathbb\x7bU\x7d "),
   (0x1D54D, "\\mathbb\x7bV\x7d "), (0x1D54E, "\\mathbb\x7bW\x7d "), (0x1D54F, "\\mathbb\x7bX\x7d "),
   (0x1D550, "\\mathbb\x7bY\x7d "), (0x1D552, "\\mathbb\x7ba\x7d "), (0x1D553, "\\mathbb\x7bb\x7d "),
   (0x1D554, "\\mathbb\x7bc\x7d "), (0x1D555, "\\mathbb\x7bd\x7d "), (0x1D556, "\\mathbb\x7be\x7d "),
   (0x1D557, "\\mathbb\x7bf\x7d "), (0x1D558, "\\mathbb\x7bg\x7d "), (0x1D559, "\\mathbb\x7bh\x7d "),
   (0x1D55A, "\\mathbb\x7bi\x7d "), (0x1D55B, "\\mathbb\x7bj\x7d "), (0x1D55C, "\\mathbb\x7bk\x7d "),
   (0x1D55D, "\\mathbb\x7bl\x7d "), (0x1D55E, "\\mathbb\x7bm\x7d "), (0x1D55F, "\\mathbb\x7bn\x7d "),
   (0x1D560, "\\mathbb\x7bo\x7d "), (0x1D561, "\\mathbb\x7bp\x7d "), (0x1D562, "\\mathbb\x7bq\x7d "),
   (0x1D563, "\\mathbb\x7br\x7d "), (0x1D564, "\\mathbb\x7bs\x7d "), (0x1D565, "\\mathbb\x7bt\x7d "),
   (0x1D566, "\\mathbb\x7bu\x7d "), (0x1D567, "\\mathbb\x7bv\x7d "), (0x1D568, "\\mathbb\x7bw\x7d "),
   (0x1D569, "\\mathbb\x7bx\x7d "), (0x1D56A, "\\mathbb\x7by\x7d "), (0x1D56B, "\\mathbb\x7bz\x7d ")]

/-- italic Greek letters -/
def italicGreekGlyphs : List (Nat × String) :=
  [(0x1D6E2, "\\mathit\x7b\\Gamma\x7d "), (0x1D6E3, "\\mathit\x7b\\Delta\x7d "),
   (0x1D6E7, "\\mathit\x7b\\Theta\x7d "), (0x1D6EA, "\\mathit\x7b\\Lambda\x7d "),
   (0x1D6EC, "\\mathit\x7b\\Xi\x7d "), (0x1D6ED, "\\mathit\x7b\\Pi\x7d "),
   (0x1D6EF, "\\mathit\x7b\\Sigma\x7d "), (0x1D6F1, "\\mathit\x7b\\Upsilon\x7d "),
   (0x1D6F2, "\\mathit\x7b\\Phi\x7d "), (0x1D6F4, "\\mathit\x7b\\Psi\x7d "),
   (0x1D6F6, "\\mathit\x7b\\Omega\x7d "), (0x1D6FC, "\\alpha "), (0x1D6FD, "\\beta "), (0x1D6FE, "\\gamma "),
   (0x1D6FF, "\\delta "), (0x1D700, "\\epsilon "), (0x1D701, "\\zeta "), (0x1D702, "\\eta "),
   (0x1D703, "\\theta "), (0x1D704, "\\iota "), (0x1D705, "\\kappa "), (0x1D706, "\\lambda "),
   (0x1D707, "\\mu "), (0x1D708, "\\nu "), (0x1D709, "\\xi "), (0x1D70A, "o "), (0x1D70B, "\\pi "),
   (0x1D70C, "\\rho "), (0x1D70D, "\\varsigma "), (0x1D70E, "\\sigma "), (0x1D70F, "\\tau "),
   (0x1D710, "\\upsilon "), (0x1D712, "\\chi "), (0x1D713, "\\psi "), (0x1D714, "\\omega "),
   (0x1D715, "\\partial "), (0x1D716, "\\vartheta "), (0x1D717, "\\varphi "), (0x1D718, "\\varpi "),
   (0x1D719, "\\phi "), (0x1D71A, "\\varrho "), (0x1D71B, "\\varepsilon ")]

/-- the whole table -/
def glyphEntries : List (Nat × String) :=
  asciiGlyphs ++ latinGlyphs ++ diacriticGlyphs ++ greekGlyphs ++ punctuationGlyphs ++ scriptDigitGlyphs ++
    symbolMarkGlyphs ++ letterlikeGlyphs ++ arrowGlyphs ++ operatorGlyphs ++ technicalGlyphs ++
    bracketGlyphs ++ boldGlyphs ++ italicGlyphs ++ scriptGlyphs ++ frakturGlyphs ++ doubleStruckGlyphs ++
    italicGreekGlyphs

end Untypeset.Symbol
