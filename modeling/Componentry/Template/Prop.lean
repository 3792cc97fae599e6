import Componentry.Text.Casing
import Componentry.Text.Word
import Componentry.Naming

/-!
# Names of props

The prop that an attribute of a document becomes in a template: renamed attributes, event handlers,
and names that keep their hyphens or lose them.
-/

namespace Componentry.Template

/-- The attributes whose prop has a name of its own. -/
def renamedProps : List (Text × Text) := Text.pairs [
  ("class", "className"), ("for", "htmlFor"), ("tabindex", "tabIndex"), ("accesskey", "accessKey"),
  ("autocomplete", "autoComplete"), ("autofocus", "autoFocus"), ("autoplay", "autoPlay"),
  ("colspan", "colSpan"), ("rowspan", "rowSpan"), ("contenteditable", "contentEditable"),
  ("crossorigin", "crossOrigin"), ("datetime", "dateTime"), ("enctype", "encType"),
  ("formaction", "formAction"), ("frameborder", "frameBorder"), ("http-equiv", "httpEquiv"),
  ("inputmode", "inputMode"), ("maxlength", "maxLength"), ("minlength", "minLength"),
  ("novalidate", "noValidate"), ("playsinline", "playsInline"), ("readonly", "readOnly"),
  ("referrerpolicy", "referrerPolicy"), ("spellcheck", "spellCheck"), ("srcset", "srcSet"),
  ("usemap", "useMap"), ("viewbox", "viewBox"), ("preserveaspectratio", "preserveAspectRatio"),
  ("gradientunits", "gradientUnits"), ("gradienttransform", "gradientTransform"),
  ("patternunits", "patternUnits"), ("patterntransform", "patternTransform"),
  ("clippathunits", "clipPathUnits"), ("markerwidth", "markerWidth"),
  ("markerheight", "markerHeight"), ("refx", "refX"), ("refy", "refY"),
  ("stddeviation", "stdDeviation"), ("textlength", "textLength"), ("lengthadjust", "lengthAdjust"),
  ("pathlength", "pathLength"), ("spreadmethod", "spreadMethod")]

/-- The event attributes whose prop has more than one capital. -/
def renamedEvents : List (Text × Text) := Text.pairs [
  ("ondblclick", "onDoubleClick"), ("onmousedown", "onMouseDown"), ("onmouseup", "onMouseUp"),
  ("onmouseover", "onMouseOver"), ("onmouseout", "onMouseOut"), ("onmouseenter", "onMouseEnter"),
  ("onmouseleave", "onMouseLeave"), ("onmousemove", "onMouseMove"), ("onkeydown", "onKeyDown"),
  ("onkeyup", "onKeyUp"), ("onkeypress", "onKeyPress"), ("ontouchstart", "onTouchStart"),
  ("ontouchend", "onTouchEnd"), ("ontouchmove", "onTouchMove"), ("oncontextmenu", "onContextMenu"),
  ("ondragstart", "onDragStart"), ("ondragend", "onDragEnd"), ("ondragover", "onDragOver"),
  ("onanimationend", "onAnimationEnd"), ("ontransitionend", "onTransitionEnd")]

/-- The props that are switched on or left out. -/
def booleanProps : List Text := [
  "disabled", "checked", "required", "readOnly", "hidden", "autoFocus", "multiple", "selected",
  "autoPlay", "controls", "loop", "muted", "noValidate", "open", "playsInline"]

/-- The props that take an integer. -/
def numericProps : List Text := [
  "tabIndex", "maxLength", "minLength", "rows", "cols", "colSpan", "rowSpan", "size", "span",
  "start"]

/-- The props that a control gets from its state. -/
def controlledProps : List Text := ["value", "checked", "onChange"]

/-- A name is that of an event attribute: it starts with `on` in any case and goes on. -/
def isEventName (name : Text) : Bool := 2 < name.length && Text.startsWith name.lower "on"

/-- The prop of an event attribute. Beyond the renamed ones, its third letter becomes a capital; a
name without one has no prop. -/
def eventProp? (name : Text) : Option Text :=
  match renamedEvents.lookup name.lower with
  | some prop => some prop
  | none =>
    match name.lower with
    | _ :: _ :: c :: rest => some ("on" ++ Casing.upperChar c ++ rest)
    | _ => none

/-- A name with each hyphen or colon before a letter dropped and the letter made a capital. -/
def joinHumps : Text → Text
  | mark :: c :: rest =>
    if (mark = '-' || mark = ':') && c.isAlpha then c.toUpper :: joinHumps rest
    else mark :: joinHumps (c :: rest)
  | t => t

/-- The prop of an attribute. -/
def propName (name : Text) : Text :=
  let lowered := name.lower
  match renamedProps.lookup lowered with
  | some prop => prop
  | none =>
    if isEventName lowered then (eventProp? lowered).getD lowered
    else if Text.startsWith lowered "aria-" || Text.startsWith lowered "data-" then lowered
    else joinHumps (Naming.camelCase lowered)

/-- A character of the name of an attribute that has a prop, after its first. -/
def isPropChar (c : Char) : Bool := c = '.' || c = ':' || c = '-' || isWordChar c

/-- An attribute has a prop: its name starts with a letter or an underscore and has word characters,
points, colons and hyphens, perhaps before a final line feed. -/
def hasProp : Text → Bool
  | [] => false
  | c :: rest =>
    (c.isAlpha || c = '_') &&
      (rest.dropWhile isPropChar = [] || rest.dropWhile isPropChar = ['\n'])

end Componentry.Template
