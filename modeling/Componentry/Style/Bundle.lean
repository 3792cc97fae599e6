import Componentry.Template.Escape
import Componentry.Theme

/-!
# Style bundles

The style sheet of a component: variables of the design system with the accent colour of a theme,
and after them the styles of the document, or those that are given in their place.
-/

namespace Componentry

namespace Theme

/-- The variables before the channels of the accent colour. -/
def opening : Text := Text.ofLines [
    "/* Manifest Design System - Variable Architecture */",
    ":root \x7b",
    "  /* HSL Base: Brand Identity */"]

/-- The variables after the channels of the accent colour. -/
def closing : Text := Text.ofLines [
    "",
    "  /* Semantic Brand Tokens */",
    "  --manifest-accent: hsl(var(--m-accent-h), var(--m-accent-s), var(--m-accent-l));",
    "  --manifest-accent-hover: hsl(var(--m-accent-h), var(--m-accent-s), " ++
      "calc(var(--m-accent-l) - 8%));",
    "  --manifest-accent-glow: hsla(var(--m-accent-h), var(--m-accent-s), " ++
      "var(--m-accent-l), 0.35);",
    "",
    "  /* Surface System */",
    "  --manifest-bg-primary: #f8fafc;",
    "  --manifest-bg-secondary: #eff6ff;",
    "  --manifest-bg-tertiary: #f0fdf4;",
    "  --manifest-bg-card: #ffffff;",
    "  --manifest-border: #e2e8f0;",
    "",
    "  /* Typography System */",
    "  --manifest-text-main: #0f172a;",
    "  --manifest-text-sub: #475569;",
    "  --manifest-text-muted: #94a3b8;",
    "  --manifest-text-inverse: #ffffff;",
    "",
    "  /* Layout Geometry */",
    "  --manifest-radius-sm: 0.375rem;",
    "  --manifest-radius-md: 0.75rem;",
    "  --manifest-radius-lg: 1rem;",
    "  --manifest-radius-full: 9999px;",
    "",
    "  /* Motion */",
    "  --manifest-ease: cubic-bezier(0.4, 0, 0.2, 1);",
    "  --manifest-duration: 0.2s;",
    "  --manifest-transition: var(--manifest-duration) var(--manifest-ease);",
    "",
    "  /* Elevation */",
    "  --manifest-shadow-sm: 0 1px 2px 0 rgba(0, 0, 0, 0.05);",
    "  --manifest-shadow-md: 0 4px 6px -1px rgba(0, 0, 0, 0.1), " ++
      "0 2px 4px -1px rgba(0, 0, 0, 0.06);",
    "  --manifest-shadow-lg: 0 10px 15px -3px rgba(0, 0, 0, 0.1), " ++
      "0 4px 6px -2px rgba(0, 0, 0, 0.05);",
    "\x7d"]

/-- The variables of the design system. -/
def declarations (t : Theme) : Text :=
  opening ++ "\n  --m-accent-h: " ++ Text.ofNat t.hue ++ ";\n  --m-accent-s: " ++
    Text.ofNat t.saturation ++ "%;\n  --m-accent-l: " ++ Text.ofNat t.lightness ++ "%;\n" ++ closing

end Theme

/-- The styles of a component: `override` if it is not blank, or else the styles of the document. -/
def artifactStyles (styles : List Text) (override : Text) : Text :=
  if (Text.trim override).isEmpty then Text.trim (List.intercalate ['\n'] styles)
  else Text.trim override

/-- The style sheet of a component. -/
def styleBundle (styles : List Text) (override : Text) (theme : Theme) : Text :=
  theme.declarations ++ "\n\n/* Artifact-specific Styles */\n" ++ artifactStyles styles override

end Componentry
