import HtmlBuilder.Markup.TagName

/-!
The names that other vocabularies use inside markup. Tags and keys are read in
lower case; some names of vector graphics and of mathematical markup have
capitals, and some keys belong to a namespace whose beginning is not part of the
key.
-/

namespace HtmlBuilder.Markup

inductive Namespace where
  | html
  | svg
  | mathml
deriving DecidableEq, Inhabited

/-- The element names of vector graphics that have capitals. -/
def svgNames : List String := [
  "altGlyph", "altGlyphDef", "altGlyphItem", "animateColor", "animateMotion",
  "animateTransform", "clipPath", "feBlend", "feColorMatrix",
  "feComponentTransfer", "feComposite", "feConvolveMatrix", "feDiffuseLighting",
  "feDisplacementMap", "feDistantLight", "feDropShadow", "feFlood", "feFuncA",
  "feFuncB", "feFuncG", "feFuncR", "feGaussianBlur", "feImage", "feMerge",
  "feMergeNode", "feMorphology", "feOffset", "fePointLight",
  "feSpecularLighting", "feSpotLight", "feTile", "feTurbulence",
  "foreignObject", "glyphRef", "linearGradient", "radialGradient", "textPath"]

def svgKeys : List String := [
  "attributeName", "attributeType", "baseFrequency", "baseProfile", "calcMode",
  "clipPathUnits", "diffuseConstant", "edgeMode", "filterUnits", "glyphRef",
  "gradientTransform", "gradientUnits", "kernelMatrix", "kernelUnitLength",
  "keyPoints", "keySplines", "keyTimes", "lengthAdjust", "limitingConeAngle",
  "markerHeight", "markerUnits", "markerWidth", "maskContentUnits", "maskUnits",
  "numOctaves", "pathLength", "patternContentUnits", "patternTransform",
  "patternUnits", "pointsAtX", "pointsAtY", "pointsAtZ", "preserveAlpha",
  "preserveAspectRatio", "primitiveUnits", "refX", "refY", "repeatCount",
  "repeatDur", "requiredExtensions", "requiredFeatures", "specularConstant",
  "specularExponent", "spreadMethod", "startOffset", "stdDeviation",
  "stitchTiles", "surfaceScale", "systemLanguage", "tableValues", "targetX",
  "targetY", "textLength", "viewBox", "viewTarget", "xChannelSelector",
  "yChannelSelector", "zoomAndPan"]

def mathmlKeys : List String := ["definitionURL"]

/-- The keys that belong to a namespace, with the part that remains of them. -/
def namespacedKeys : List (String × String) := [
  ("xlink:actuate", "actuate"), ("xlink:arcrole", "arcrole"),
  ("xlink:href", "href"), ("xlink:role", "role"), ("xlink:show", "show"),
  ("xlink:title", "title"), ("xlink:type", "type"), ("xml:lang", "lang"),
  ("xml:space", "space"), ("xmlns", "xmlns"), ("xmlns:xlink", "xlink")]

/-- The name in a list that is the given one but for its capitals. -/
def withCapitals? (names : List String) (name : String) : Option String :=
  names.find? fun other => other.toList.map Char.toLower == name.toList

def Namespace.adjustName (space : Namespace) (name : TagName) : TagName :=
  match space with
  | .svg => ((withCapitals? svgNames name.text).bind TagName.ofText?).getD name
  | .html | .mathml => name

def Namespace.adjustKey (space : Namespace) (key : String) : String :=
  let names := match space with
    | .svg => svgKeys
    | .mathml => mathmlKeys
    | .html => []
  ((withCapitals? names key).or (namespacedKeys.lookup key)).getD key

def Namespace.adjustAttributes (space : Namespace)
    (attributes : List (String × String)) : List (String × String) :=
  attributes.map fun (key, value) => (space.adjustKey key, value)

end HtmlBuilder.Markup
