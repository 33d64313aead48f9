import ThemedStyles.Style

namespace ThemedStyles
namespace Book

/-!
# The layout classes

A book of classes that depend on no theme: flex layouts, padding, positions,
alignment, sizes, cursors, opacity and a few of typography.
-/

/-- A row. -/
def horizontalBody : Book := [("display", "flex"), ("flexDirection", "initial")]

/-- A column. -/
def verticalBody : Book := [("display", "flex"), ("flexDirection", "column")]

/-- Equal padding on the left and on the right. -/
def horizontalPadding (size : String) : Book := [("paddingLeft", size), ("paddingRight", size)]

/-- Equal padding above and below. -/
def verticalPadding (size : String) : Book := [("paddingTop", size), ("paddingBottom", size)]

/-- Rows, columns and floating blocks. -/
def flowClasses : Book :=
  [("horizontal0", horizontalBody),
   ("horizontal", horizontalBody.put "gap" "16px"),
   ("horizontalSmall", horizontalBody.put "gap" "8px"),
   ("blockHorizontal",
     .book [("& > *",
       .book [("float", "left"), ("marginLeft", "16px"),
         ("&:first", .book [("marginLeft", "0px")])])]),
   ("vertical0", verticalBody),
   ("vertical", verticalBody.put "rowGap" "16px"),
   ("verticalSmall", verticalBody.put "rowGap" "8px")]

/-- Padding, also that of table cells. -/
def paddingClasses : Book :=
  [("pad", .book [("padding", "16px")]),
   ("padSmall", .book [("padding", "8px")]),
   ("padVertical", verticalPadding "16px"),
   ("padVerticalSmall", verticalPadding "8px"),
   ("padHorizontal", horizontalPadding "16px"),
   ("padHorizontalSmall", horizontalPadding "8px"),
   ("tableHorizontalSmall",
     .book [("& th", horizontalPadding "8px"), ("& td", horizontalPadding "8px")])]

/-- Positions and offsets. -/
def positionClasses : Book :=
  [("relative", .book [("position", "relative")]),
   ("absolute", .book [("position", "absolute")]),
   ("positionTop0", .book [("top", 0)]),
   ("positionLeft0", .book [("left", 0)]),
   ("positionRight0", .book [("right", 0)]),
   ("positionBottom0", .book [("bottom", 0)]),
   ("positionRightNeg", .book [("right", "-16px")]),
   ("positionTopNeg", .book [("top", "-16px")])]

/-- Growth, overflow and alignment. -/
def alignmentClasses : Book :=
  [("alignSelfStretch", .book [("alignSelf", "stretch")]),
   ("flexGrow", .book [("flexGrow", 1)]),
   ("overflowAuto", .book [("overflow", "auto")]),
   ("overflowHidden", .book [("overflow", "hidden")]),
   ("alignItemsStart", .book [("alignItems", "flex-start")]),
   ("alignItemsEnd", .book [("alignItems", "flex-end")]),
   ("alignItemsCenter", .book [("alignItems", "center")]),
   ("justifyContentCenter", .book [("justifyContent", "center")]),
   ("justifyContentEnd", .book [("justifyContent", "flex-end")]),
   ("justifyContentSpaceBetween", .book [("justifyContent", "space-between")])]

/-- Sizes, margins and cursors. -/
def sizeClasses : Book :=
  [("sizeVerticalFull", .book [("height", "100%")]),
   ("sizeMaxVertical7Rem", .book [("maxHeight", "7rem")]),
   ("sizeHorizontalFull", .book [("width", "100%")]),
   ("textAlignCenter", .book [("textAlign", "center")]),
   ("marginHorizontalNeg", .book [("marginLeft", "-16px"), ("marginRight", "-16px")]),
   ("marginVerticalNeg", .book [("marginTop", "-16px"), ("marginBottom", "-16px")]),
   ("paddingHorizontalSmall", horizontalPadding "8px"),
   ("paddingVerticalSmall", verticalPadding "8px"),
   ("cursorHorizontalResize", .book [("cursor", "ew-resize")]),
   ("cursorVerticalResize", .book [("cursor", "ns-resize")])]

/-- The flow of contents and the layout of tables. -/
def contentClasses : Book :=
  [("flexGrowChildren", .book [("& > *", .book [("flexGrow", 1)])]),
   ("verticalCenter",
     .book [("display", "inline-flex !important"), ("flexDirection", "column"),
       ("justifyContent", "center")]),
   ("flexWrap", .book [("flexWrap", "wrap")]),
   ("tableLayout", .book [("tableLayout", "fixed")]),
   ("tableLayoutFixed", .book [("tableLayout", "fixed")])]

/-- Colours, margins and opacity. -/
def surfaceClasses : Book :=
  [("colorInherit", .book [("color", "inherit")]),
   ("backgroundInherit", .book [("backgroundColor", "inherit")]),
   ("backgroundWhite", .book [("backgroundColor", "white")]),
   ("backgroundBlack", .book [("backgroundColor", "black")]),
   ("marginLeftSmall", .book [("marginLeft", "8px")]),
   ("margin0", .book [("margin", 0)]),
   ("opacity3", .book [("opacity", 0.3)]),
   ("opacity5", .book [("opacity", 0.5)]),
   ("opacity8", .book [("opacity", 0.8)])]

/-- Weights, corners, rotation and overflowing text. -/
def typeClasses : Book :=
  [("fontWeight", .book [("fontWeight", 600)]),
   ("fontWeightBold", .book [("fontWeight", 600)]),
   ("borderRadiusSmall", .book [("borderRadius", "8px")]),
   ("rotate", .book [("transform", "rotate(90deg)")]),
   ("rotatePiOverTwo", .book [("transform", "rotate(90deg)")]),
   ("textOverflowEllipsis", .book [("textOverflow", "ellipsis")])]

/-- The layout classes, all under different keys. -/
def layout : Book :=
  flowClasses ++ paddingClasses ++ positionClasses ++ alignmentClasses ++ sizeClasses ++
    contentClasses ++ surfaceClasses ++ typeClasses

end Book
end ThemedStyles
