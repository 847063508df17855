import DesignTokens.Store.Basic

/-!
# The built-in store

The tokens that a stylesheet is compiled from when no other store is given.
-/

namespace DesignTokens.Builtin

/-- A token with a text for each theme. -/
def themed (light dark : String) : Node := .leaf (.variant (some light) (some dark))

/-- A token with one text for every theme. -/
def plain (text : String) : Node := .leaf (.plain text)

/-- A group of the given children. -/
def group (children : List (String × Node)) : Node := .group children

/-- The raw palettes. -/
def colors : Palette :=
  [("blue",
    [("50", "#f0f9ff"), ("100", "#e0f2fe"), ("200", "#bae6fd"), ("300", "#7dd3fc"),
     ("400", "#38bdf8"), ("500", "#0ea5e9"), ("600", "#0284c7"), ("700", "#0369a1"),
     ("800", "#075985"), ("900", "#0c4a6e")]),
   ("gray",
    [("50", "#f8fafc"), ("100", "#f1f5f9"), ("200", "#e2e8f0"), ("300", "#cbd5e1"),
     ("400", "#94a3b8"), ("500", "#64748b"), ("600", "#475569"), ("700", "#334155"),
     ("800", "#1e293b"), ("900", "#0f172a")]),
   ("red",
    [("50", "#fef2f2"), ("100", "#fee2e2"), ("200", "#fecaca"), ("300", "#fca5a5"),
     ("400", "#f87171"), ("500", "#ef4444"), ("600", "#dc2626"), ("700", "#b91c1c"),
     ("800", "#991b1b"), ("900", "#7f1d1d")]),
   ("green",
    [("50", "#f0fdf4"), ("100", "#dcfce7"), ("200", "#bbf7d0"), ("300", "#86efac"),
     ("400", "#4ade80"), ("500", "#22c55e"), ("600", "#16a34a"), ("700", "#15803d"),
     ("800", "#166534"), ("900", "#14532d")]),
   ("amber",
    [("50", "#fffbeb"), ("100", "#fef3c7"), ("200", "#fde68a"), ("300", "#fcd34d"),
     ("400", "#fbbf24"), ("500", "#f59e0b"), ("600", "#d97706"), ("700", "#b45309"),
     ("800", "#92400e"), ("900", "#78350f")]),
   ("white",
    [("50", "#ffffff"), ("100", "#fefefe"), ("200", "#fdfdfd"), ("300", "#fcfcfc"),
     ("400", "#fbfbfb"), ("500", "#fafafa"), ("600", "#f9f9f9"), ("700", "#f8f8f8"),
     ("800", "#f7f7f7"), ("900", "#f5f5f5")]),
   ("black",
    [("50", "#1a1a1a"), ("100", "#171717"), ("200", "#141414"), ("300", "#111111"),
     ("400", "#0f0f0f"), ("500", "#0d0d0d"), ("600", "#0b0b0b"), ("700", "#080808"),
     ("800", "#050505"), ("900", "#000000")])]

/-- The brand palette. -/
def brand : Palette :=
  [("primary",
    [("50", "#f0f9ff"), ("100", "#e0f2fe"), ("200", "#bae6fd"), ("300", "#7dd3fc"),
     ("400", "#38bdf8"), ("500", "#0ea5e9"), ("600", "#0284c7"), ("700", "#0369a1"),
     ("800", "#075985"), ("900", "#0c4a6e")]),
   ("secondary",
    [("50", "#f8fafc"), ("100", "#f1f5f9"), ("200", "#e2e8f0"), ("300", "#cbd5e1"),
     ("400", "#94a3b8"), ("500", "#64748b"), ("600", "#475569"), ("700", "#334155"),
     ("800", "#1e293b"), ("900", "#0f172a")]),
   ("success", [("400", "#4ade80"), ("500", "#22c55e"), ("600", "#16a34a"), ("700", "#15803d")]),
   ("warning", [("400", "#fbbf24"), ("500", "#f59e0b"), ("600", "#d97706"), ("700", "#b45309")]),
   ("error", [("400", "#f87171"), ("500", "#ef4444"), ("600", "#dc2626"), ("700", "#b91c1c")])]

/-- The tokens of the group `text`. -/
def textTokens : List (String × Node) :=
  [("primary", themed "gray.900" "gray.100"),
   ("secondary", themed "gray.600" "gray.400"),
   ("tertiary", themed "gray.500" "gray.500"),
   ("disabled", themed "gray.400" "gray.600"),
   ("inverse", themed "white.50" "black.900"),
   ("link", themed "blue.600" "blue.400"),
   ("success", themed "green.600" "green.400"),
   ("warning", themed "amber.600" "amber.400"),
   ("error", themed "red.600" "red.400"),
   ("accent", themed "brand.interactive.background" "brand.primary.400")]

/-- The tokens of the group `surface`. -/
def surfaceTokens : List (String × Node) :=
  [("background", themed "white.50" "black.200"),
   ("elevated", themed "white.50" "black.100"),
   ("overlay", themed "white.100" "black.50"),
   ("card", themed "white.50" "black.100"),
   ("input", themed "white.50" "black.100"),
   ("disabled", themed "gray.100" "gray.800"),
   ("primary", themed "white.50" "black.200"),
   ("secondary", themed "gray.50" "black.100"),
   ("transparent", plain "transparent"),
   ("gradient",
    themed "linear-gradient(135deg, white.50 0%, gray.100 100%)"
      "linear-gradient(135deg, black.200 0%, black.50 100%)")]

/-- The tokens of the group `border`. -/
def borderTokens : List (String × Node) :=
  [("default", themed "gray.300" "gray.600"),
   ("subtle", themed "gray.200" "gray.700"),
   ("strong", themed "gray.400" "gray.500"),
   ("focused", themed "brand.primary.500" "brand.primary.400"),
   ("success", themed "green.500" "green.400"),
   ("warning", themed "amber.500" "amber.400"),
   ("error", themed "red.500" "red.400"),
   ("primary", themed "gray.400" "gray.500"),
   ("secondary", themed "gray.300" "gray.600"),
   ("accent", themed "blue.400" "blue.500")]

/-- The tokens of the group `brand`. -/
def brandTokens : List (String × Node) :=
  [("interactive",
    group [
     ("background", themed "brand.primary.600" "brand.primary.500"),
     ("backgroundHover", themed "brand.primary.700" "brand.primary.600"),
     ("backgroundPressed", themed "brand.primary.800" "brand.primary.700"),
     ("text", themed "white.50" "white.50")]),
   ("secondary",
    group [
     ("background", themed "brand.secondary.100" "brand.secondary.800"),
     ("text", themed "brand.secondary.900" "brand.secondary.100")])]

/-- The tokens of the group `interactive`. -/
def interactiveTokens : List (String × Node) :=
  [("primary",
    group [
     ("background", themed "blue.600" "blue.500"),
     ("backgroundHover", themed "blue.700" "blue.600"),
     ("backgroundPressed", themed "blue.800" "blue.700"),
     ("backgroundDisabled", themed "gray.300" "gray.600"),
     ("text", themed "white.50" "white.50"),
     ("textDisabled", themed "gray.500" "gray.400")]),
   ("secondary",
    group [
     ("background", themed "white.50" "black.200"),
     ("backgroundHover", themed "gray.100" "black.100"),
     ("backgroundPressed", themed "gray.200" "black.50"),
     ("border", themed "gray.300" "gray.600"),
     ("borderHover", themed "gray.400" "gray.500"),
     ("text", themed "gray.900" "gray.100")]),
   ("ghost",
    group [
     ("background", plain "transparent"),
     ("backgroundHover", themed "gray.100" "black.100"),
     ("backgroundPressed", themed "gray.200" "black.50"),
     ("text", themed "gray.700" "gray.300")])]

/-- The tokens of the group `feedback`. -/
def feedbackTokens : List (String × Node) :=
  [("success",
    group [
     ("background", themed "green.50" "green.900"),
     ("border", themed "green.200" "green.700"),
     ("text", themed "green.800" "green.200")]),
   ("warning",
    group [
     ("background", themed "amber.50" "amber.900"),
     ("border", themed "amber.200" "amber.700"),
     ("text", themed "amber.800" "amber.200")]),
   ("error",
    group [
     ("background", themed "red.50" "red.900"),
     ("border", themed "red.200" "red.700"),
     ("text", themed "red.800" "red.200")]),
   ("info",
    group [
     ("background", themed "blue.50" "blue.900"),
     ("border", themed "blue.200" "blue.700"),
     ("text", themed "blue.800" "blue.200")])]

/-- The tokens of the group `effects`. -/
def effectsTokens : List (String × Node) :=
  [("brand",
    group [
     ("glow",
      group
      [("subtle", plain "none"),
       ("strong",
        themed "0 0 12px rgba(2, 132, 199, 0.35)" "0 0 16px rgba(56, 189, 248, 0.45)")])]),
   ("focus",
    group [
     ("ring", themed "0 0 0 3px rgba(2, 132, 199, 0.4)" "0 0 0 3px rgba(56, 189, 248, 0.5)")]),
   ("overlay",
    group [
     ("backdrop", themed "rgba(15, 23, 42, 0.5)" "rgba(0, 0, 0, 0.7)")])]

/-- The tokens of the group `layout`. -/
def layoutTokens : List (String × Node) :=
  [("container",
    group [
     ("maxWidth", plain "80rem"),
     ("padding", themed "1rem" "1rem")]),
   ("header",
    group [
     ("height", themed "4rem" "4rem")])]

/-- The semantic tree. -/
def semantic : List (String × Node) :=
  [("text", group textTokens), ("surface", group surfaceTokens), ("border", group borderTokens),
   ("brand", group brandTokens), ("interactive", group interactiveTokens),
   ("feedback", group feedbackTokens), ("effects", group effectsTokens),
   ("layout", group layoutTokens)]

/-- The scales. -/
def scales : Scales where
  spacing :=
    [("0", "0"), ("1", "0.25rem"), ("2", "0.5rem"), ("3", "0.75rem"), ("4", "1rem"),
     ("5", "1.25rem"), ("6", "1.5rem"), ("8", "2rem"), ("10", "2.5rem"), ("12", "3rem"),
     ("16", "4rem"), ("20", "5rem"), ("24", "6rem"), ("32", "8rem"), ("40", "10rem"),
     ("48", "12rem"), ("56", "14rem"), ("64", "16rem")]
  radii :=
    [("none", "0"), ("sm", "0.125rem"), ("md", "0.25rem"), ("lg", "0.5rem"), ("xl", "0.75rem"),
     ("2xl", "1rem"), ("3xl", "1.5rem"), ("full", "9999px")]
  shadows :=
    [("sm", "0 1px 2px 0 rgba(0, 0, 0, 0.05)"),
     ("md", "0 4px 6px -1px rgba(0, 0, 0, 0.1), 0 2px 4px -1px rgba(0, 0, 0, 0.06)"),
     ("lg", "0 10px 15px -3px rgba(0, 0, 0, 0.1), 0 4px 6px -2px rgba(0, 0, 0, 0.05)"),
     ("xl", "0 20px 25px -5px rgba(0, 0, 0, 0.1), 0 10px 10px -5px rgba(0, 0, 0, 0.04)"),
     ("2xl", "0 25px 50px -12px rgba(0, 0, 0, 0.25)"),
     ("inner", "inset 0 2px 4px 0 rgba(0, 0, 0, 0.06)"), ("none", "none")]
  fontFamilies :=
    [("sans",
      "'DM Sans', ui-sans-serif, system-ui, -apple-system, BlinkMacSystemFont, " ++
        "'Segoe UI', Roboto, 'Helvetica Neue', Arial, sans-serif"),
     ("mono", "'DM Mono', ui-monospace, SFMono-Regular, Menlo, Monaco, Consolas, monospace")]
  fontSizes :=
    [("xs", "0.75rem"), ("sm", "0.875rem"), ("base", "1rem"), ("lg", "1.125rem"),
     ("xl", "1.25rem"), ("2xl", "1.5rem"), ("3xl", "1.875rem"), ("4xl", "2.25rem"),
     ("5xl", "3rem"), ("6xl", "3.75rem")]
  fontWeights :=
    [("thin", "100"), ("extralight", "200"), ("light", "300"), ("normal", "400"),
     ("medium", "500"), ("semibold", "600"), ("bold", "700"), ("extrabold", "800"),
     ("black", "900")]
  lineHeights :=
    [("none", "1"), ("tight", "1.25"), ("snug", "1.375"), ("normal", "1.5"),
     ("relaxed", "1.625"), ("loose", "2")]
  letterSpacings :=
    [("tighter", "-0.05em"), ("tight", "-0.025em"), ("normal", "0"), ("wide", "0.025em"),
     ("wider", "0.05em"), ("widest", "0.1em")]

/-- The built-in store. -/
def store : TokenStore where
  name := "mond"
  description := "Mond design system - professional, clean design tokens"
  colors
  brand
  semantic
  scales

end DesignTokens.Builtin
