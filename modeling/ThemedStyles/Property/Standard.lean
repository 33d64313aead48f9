namespace ThemedStyles
namespace Property

/-!
# The standard properties

The dash-case names of the properties that a body may declare.
-/

/-- The standard property names in alphabetical order. -/
def standardNames : List String :=
  ["accent-color", "align-content", "align-items", "align-self", "all", "animation",
   "animation-delay", "animation-direction", "animation-duration", "animation-fill-mode",
   "animation-iteration-count", "animation-name", "animation-play-state",
   "animation-timing-function", "appearance", "aspect-ratio", "backdrop-filter",
   "backface-visibility", "background", "background-attachment", "background-blend-mode",
   "background-clip", "background-color", "background-image", "background-origin",
   "background-position", "background-repeat", "background-size", "border", "border-bottom",
   "border-bottom-color", "border-bottom-left-radius", "border-bottom-right-radius",
   "border-bottom-style", "border-bottom-width", "border-collapse", "border-color",
   "border-image", "border-left", "border-left-color", "border-left-style", "border-left-width",
   "border-radius", "border-right", "border-right-color", "border-right-style",
   "border-right-width", "border-spacing", "border-style", "border-top", "border-top-color",
   "border-top-left-radius", "border-top-right-radius", "border-top-style", "border-top-width",
   "border-width", "bottom", "box-shadow", "box-sizing", "caption-side", "caret-color", "clear",
   "clip", "clip-path", "color", "column-count", "column-gap", "column-rule", "column-width",
   "columns", "content", "counter-increment", "counter-reset", "cursor", "direction", "display",
   "empty-cells", "fill", "filter", "flex", "flex-basis", "flex-direction", "flex-flow",
   "flex-grow", "flex-shrink", "flex-wrap", "float", "font", "font-family",
   "font-feature-settings", "font-size", "font-stretch", "font-style", "font-variant",
   "font-weight", "gap", "grid", "grid-area", "grid-auto-columns", "grid-auto-flow",
   "grid-auto-rows", "grid-column", "grid-column-end", "grid-column-start", "grid-row",
   "grid-row-end", "grid-row-start", "grid-template", "grid-template-areas",
   "grid-template-columns", "grid-template-rows", "height", "hyphens", "inset", "isolation",
   "justify-content", "justify-items", "justify-self", "left", "letter-spacing", "line-height",
   "list-style", "list-style-image", "list-style-position", "list-style-type", "margin",
   "margin-bottom", "margin-left", "margin-right", "margin-top", "mask", "max-height",
   "max-width", "min-height", "min-width", "mix-blend-mode", "object-fit", "object-position",
   "opacity", "order", "outline", "outline-color", "outline-offset", "outline-style",
   "outline-width", "overflow", "overflow-wrap", "overflow-x", "overflow-y", "padding",
   "padding-bottom", "padding-left", "padding-right", "padding-top", "perspective",
   "perspective-origin", "place-content", "place-items", "place-self", "pointer-events",
   "position", "quotes", "resize", "right", "rotate", "row-gap", "scale", "scroll-behavior",
   "stroke", "stroke-width", "tab-size", "table-layout", "text-align", "text-decoration",
   "text-decoration-color", "text-decoration-line", "text-decoration-style", "text-indent",
   "text-overflow", "text-shadow", "text-transform", "top", "transform", "transform-origin",
   "transform-style", "transition", "transition-delay", "transition-duration",
   "transition-property", "transition-timing-function", "translate", "unicode-bidi",
   "user-select", "vertical-align", "visibility", "white-space", "width", "will-change",
   "word-break", "word-spacing", "word-wrap", "writing-mode", "z-index"]

end Property
end ThemedStyles
