import StyleLens.Docs.Dataset

/-!
# The builtin documentation

The entries that are there without any file. Every one of them refers to a page
of the reference documentation.
-/

namespace StyleLens

namespace Builtin

/-- The address that the pages of the reference documentation have in common. -/
def site : String := "https://developer.mozilla.org/docs/Web/CSS/"

/-- An entry with the page of the reference documentation at `page`. -/
def entry (name page : String) (status : Option Status) (description : String)
    (grammar : Option String) : Entry :=
  ⟨name, some description, grammar, status, [⟨"MDN Reference", site ++ page⟩]⟩

/-- The properties that are documented. -/
def properties : List Entry :=
  [entry "align-content" "align-content" none
      ("Aligns a flex container's lines within the flex container when there is extra space in "
        ++ "the cross-axis, similar to how 'justify-content' aligns individual items within the "
        ++ "main-axis.")
      (some ("normal | baseline | space-between | space-around | space-evenly | stretch | "
        ++ "center | flex-start | flex-end")),
    entry "align-items" "align-items" none
      "Aligns flex items along the cross axis of the current line of the flex container."
      (some "normal | stretch | baseline | center | flex-start | flex-end | self-start | self-end"),
    entry "align-self" "align-self" none
      ("Allows the default alignment along the cross axis to be overridden for individual flex "
        ++ "items.")
      (some ("auto | normal | stretch | baseline | center | flex-start | flex-end | self-start "
        ++ "| self-end")),
    entry "animation" "animation" none
      "Shorthand property combines six of the animation properties into a single property."
      (some "<single-animation>#"),
    entry "animation-duration" "animation-duration" none
      "Defines the length of time that an animation takes to complete one cycle."
      (some "<time>#"),
    entry "animation-name" "animation-name" none
      ("Defines a list of animations that apply. Each name is used to select the keyframe "
        ++ "at-rule that provides the property values for the animation.")
      (some "none | <keyframes-name>#"),
    entry "background" "background" none
      ("Shorthand property for setting most background properties at the same place in the "
        ++ "style sheet.")
      (some "<bg-layer>#, <final-bg-layer>"),
    entry "background-color" "background-color" none
      "Sets the background color of an element."
      (some "<color>"),
    entry "background-image" "background-image" none
      "Sets the background image(s) of an element."
      (some "none | <image>#"),
    entry "border" "border" none
      "Shorthand property for setting border width, style, and color."
      (some "<line-width> || <line-style> || <color>"),
    entry "border-color" "border-color" none
      "The color of the border around all four edges of an element."
      (some "<color>\x7b1,4\x7d"),
    entry "border-radius" "border-radius" none
      "Defines the radii of the outer border edge."
      (some "<length-percentage>\x7b1,4\x7d / <length-percentage>\x7b1,4\x7d"),
    entry "border-style" "border-style" none
      "The style of the border around edges of an element."
      (some "<line-style>\x7b1,4\x7d"),
    entry "border-width" "border-width" none
      ("Shorthand that sets the four 'border-*-width' properties. If it has four values, they "
        ++ "set top, right, bottom and left in that order.")
      (some "<line-width>\x7b1,4\x7d"),
    entry "bottom" "bottom" none
      ("Specifies how far an absolutely positioned box's bottom margin edge is offset above the "
        ++ "bottom edge of the box's 'containing block'.")
      (some "<length> | <percentage> | auto"),
    entry "box-shadow" "box-shadow" none
      ("Attaches one or more drop-shadows to the box. The property is a comma-separated list of "
        ++ "shadows, each specified by 2-4 length values, an optional color, and an optional "
        ++ "'inset' keyword.")
      (some "none | <shadow>#"),
    entry "box-sizing" "box-sizing" none
      "Specifies the behavior of the 'width' and 'height' properties."
      (some "content-box | border-box"),
    entry "clear" "clear" none
      ("Indicates which sides of an element's box(es) may not be adjacent to an earlier "
        ++ "floating box.")
      (some "none | left | right | both | inline-start | inline-end"),
    entry "color" "color" none
      "Color of an element's text"
      (some "<color>"),
    entry "column-gap" "column-gap" none
      "Sets the gap between columns in a multi-column, flex or grid layout."
      (some "normal | <length-percentage>"),
    entry "content" "content" none
      ("Determines which page-based occurrence of a given element is applied to a counter or "
        ++ "string value.")
      (some "normal | none | <content-list>"),
    entry "cursor" "cursor" none
      "Allows control over cursor appearance in an element"
      (some ("<url>#, auto | default | none | pointer | text | move | wait | help | not-allowed "
        ++ "| grab | grabbing")),
    entry "display" "display" none
      ("In combination with 'float' and 'position', determines the type of box or boxes that "
        ++ "are generated for an element.")
      (some ("block | inline | inline-block | flex | inline-flex | grid | inline-grid | "
        ++ "flow-root | contents | none | table | list-item")),
    entry "fill" "fill" none
      "Paints the interior of the given graphical element."
      (some "<paint>"),
    entry "filter" "filter" none
      ("Processes an element's rendering before it is displayed in the document, by applying "
        ++ "one or more filter effects.")
      (some "none | <filter-function-list>"),
    entry "flex" "flex" none
      ("Specifies the components of a flexible length: the flex grow factor and flex shrink "
        ++ "factor, and the flex basis.")
      (some "none | <flex-grow> <flex-shrink>? || <flex-basis>"),
    entry "flex-basis" "flex-basis" none
      "Sets the flex basis."
      (some "content | <width>"),
    entry "flex-direction" "flex-direction" none
      ("Specifies how flex items are placed in the flex container, by setting the direction of "
        ++ "the flex container's main axis.")
      (some "row | row-reverse | column | column-reverse"),
    entry "flex-grow" "flex-grow" none
      "Sets the flex grow factor. Negative numbers are invalid."
      (some "<number>"),
    entry "flex-shrink" "flex-shrink" none
      "Sets the flex shrink factor. Negative numbers are invalid."
      (some "<number>"),
    entry "flex-wrap" "flex-wrap" none
      ("Controls whether the flex container is single-line or multi-line, and the direction of "
        ++ "the cross-axis, which determines the direction new lines are stacked in.")
      (some "nowrap | wrap | wrap-reverse"),
    entry "float" "float" none
      ("Specifies how a box should be floated. It may be set for any element, but only applies "
        ++ "to elements that generate boxes that are not absolutely positioned.")
      (some "left | right | none | inline-start | inline-end"),
    entry "font" "font" none
      ("Shorthand property for setting 'font-style', 'font-variant', 'font-weight', "
        ++ "'font-size', 'line-height', and 'font-family', at the same place in the style sheet. "
        ++ "The syntax of this property is based on a traditional typographical shorthand "
        ++ "notation to set multiple properties related to fonts.")
      (some ("<font-style>? <font-weight>? <font-size> / <line-height>? <font-family> | caption "
        ++ "| icon | menu | message-box | small-caption | status-bar")),
    entry "font-family" "font-family" none
      ("Specifies a prioritized list of font family names or generic family names. A user agent "
        ++ "iterates through the list of family names until it matches an available font that "
        ++ "contains a glyph for the character to be rendered.")
      (some "<family-name> | <generic-family>#"),
    entry "font-size" "font-size" none
      ("Indicates the desired height of glyphs from the font. For scalable fonts, the font-size "
        ++ "is a scale factor applied to the EM unit of the font.")
      (some "<absolute-size> | <relative-size> | <length-percentage>"),
    entry "font-style" "font-style" none
      ("Allows italic or oblique faces to be selected. Italic forms are generally cursive in "
        ++ "nature while oblique faces are typically sloped versions of the regular face.")
      (some "normal | italic | oblique <angle>?"),
    entry "font-weight" "font-weight" none
      "Specifies weight of glyphs in the font, their degree of blackness or stroke thickness."
      (some "normal | bold | bolder | lighter | <number>"),
    entry "gap" "gap" none
      "Shorthand that specifies the gutters between grid or flex rows and columns."
      (some "<row-gap> <column-gap>?"),
    entry "grid-template-columns" "grid-template-columns" none
      "Specifies the size of the grid columns in the grid container."
      (some "none | <track-list> | <auto-track-list> | subgrid"),
    entry "grid-template-rows" "grid-template-rows" none
      "Specifies the size of the grid rows in the grid container."
      (some "none | <track-list> | <auto-track-list> | subgrid"),
    entry "height" "height" none
      ("Specifies the height of the content area, padding area or border area (depending on "
        ++ "'box-sizing') of certain boxes.")
      (some "auto | <length> | <percentage> | min-content | max-content | fit-content"),
    entry "justify-content" "justify-content" none
      "Aligns flex items along the main axis of the current line of the flex container."
      (some ("normal | space-between | space-around | space-evenly | stretch | center | start | "
        ++ "end | flex-start | flex-end | left | right")),
    entry "left" "left" none
      ("Specifies how far an absolutely positioned box's left margin edge is offset to the "
        ++ "right of the left edge of the box's 'containing block'.")
      (some "<length> | <percentage> | auto"),
    entry "letter-spacing" "letter-spacing" none
      "Specifies the minimum, maximum, and optimal spacing between grapheme clusters."
      (some "normal | <length>"),
    entry "line-height" "line-height" none
      "Determines the block-progression dimension of the text content area of an inline box."
      (some "normal | <number> | <length> | <percentage>"),
    entry "list-style" "list-style" none
      "Shorthand for setting 'list-style-type', 'list-style-position' and 'list-style-image'"
      (some "<list-style-type> || <list-style-position> || <list-style-image>"),
    entry "margin" "margin" none
      ("Shorthand property to set values for the thickness of the margin area. If left is "
        ++ "omitted, it is the same as right. If bottom is omitted it is the same as top, if "
        ++ "right is omitted it is the same as top. Negative values for margin properties are "
        ++ "allowed, but there may be implementation-specific limits.")
      (some "<margin-top>\x7b1,4\x7d"),
    entry "margin-bottom" "margin-bottom" none
      ("Shorthand property to set values for the thickness of the margin area. Negative values "
        ++ "for margin properties are allowed, but there may be implementation-specific limits.")
      (some "<length> | <percentage> | auto"),
    entry "margin-left" "margin-left" none
      ("Shorthand property to set values for the thickness of the margin area. Negative values "
        ++ "for margin properties are allowed, but there may be implementation-specific limits.")
      (some "<length> | <percentage> | auto"),
    entry "margin-right" "margin-right" none
      ("Shorthand property to set values for the thickness of the margin area. Negative values "
        ++ "for margin properties are allowed, but there may be implementation-specific limits.")
      (some "<length> | <percentage> | auto"),
    entry "margin-top" "margin-top" none
      ("Shorthand property to set values for the thickness of the margin area. Negative values "
        ++ "for margin properties are allowed, but there may be implementation-specific limits.")
      (some "<length> | <percentage> | auto"),
    entry "max-height" "max-height" none
      "Allows authors to constrain content height to a certain range."
      (some "none | <length-percentage> | min-content | max-content | fit-content"),
    entry "max-width" "max-width" none
      "Allows authors to constrain content width to a certain range."
      (some "none | <length-percentage> | min-content | max-content | fit-content"),
    entry "min-height" "min-height" none
      "Allows authors to constrain content height to a certain range."
      (some "auto | <length> | <percentage> | min-content | max-content | fit-content"),
    entry "min-width" "min-width" none
      "Allows authors to constrain content width to a certain range."
      (some "auto | <length> | <percentage> | min-content | max-content | fit-content"),
    entry "opacity" "opacity" none
      "Opacity of an element's text, where 1 is opaque and 0 is entirely transparent."
      (some "<alpha-value>"),
    entry "outline" "outline" none
      "Shorthand property for 'outline-style', 'outline-width', and 'outline-color'."
      (some "<outline-color> || <outline-style> || <outline-width>"),
    entry "overflow" "overflow" none
      "Shorthand for setting 'overflow-x' and 'overflow-y'."
      (some "visible | hidden | clip | scroll | auto"),
    entry "padding" "padding" none
      ("Shorthand property to set values for the thickness of the padding area. If left is "
        ++ "omitted, it is the same as right. If bottom is omitted it is the same as top, if "
        ++ "right is omitted it is the same as top. The value may not be negative.")
      (some "<padding-top>\x7b1,4\x7d"),
    entry "padding-bottom" "padding-bottom" none
      ("Shorthand property to set values for the thickness of the padding area. The value may "
        ++ "not be negative.")
      (some "<length> | <percentage>"),
    entry "padding-left" "padding-left" none
      ("Shorthand property to set values for the thickness of the padding area. The value may "
        ++ "not be negative.")
      (some "<length> | <percentage>"),
    entry "padding-right" "padding-right" none
      ("Shorthand property to set values for the thickness of the padding area. The value may "
        ++ "not be negative.")
      (some "<length> | <percentage>"),
    entry "padding-top" "padding-top" none
      ("Shorthand property to set values for the thickness of the padding area. The value may "
        ++ "not be negative.")
      (some "<length> | <percentage>"),
    entry "pointer-events" "pointer-events" none
      ("Specifies under what circumstances a given element can be the target element for a "
        ++ "pointer event.")
      (some ("auto | none | visiblePainted | visibleFill | visibleStroke | visible | painted | "
        ++ "fill | stroke | all | inherit")),
    entry "position" "position" none
      ("The position CSS property sets how an element is positioned in a document. The top, "
        ++ "right, bottom, and left properties determine the final location of positioned "
        ++ "elements.")
      (some "static | relative | absolute | sticky | fixed"),
    entry "right" "right" none
      ("Specifies how far an absolutely positioned box's right margin edge is offset to the "
        ++ "left of the right edge of the box's 'containing block'.")
      (some "<length> | <percentage> | auto"),
    entry "row-gap" "row-gap" none
      "Sets the gap between rows in a flex or grid layout."
      (some "normal | <length-percentage>"),
    entry "text-align" "text-align" none
      ("Describes how inline contents of a block are horizontally aligned if the contents do "
        ++ "not completely fill the line box.")
      (some "start | end | left | right | center | justify | match-parent"),
    entry "text-decoration" "text-decoration" none
      "Decorations applied to font used for an element's text."
      (some ("<text-decoration-line> || <text-decoration-style> || <text-decoration-color> || "
        ++ "<text-decoration-thickness>")),
    entry "text-overflow" "text-overflow" none
      "Text can overflow for example when it is prevented from wrapping."
      (some "clip | ellipsis | <string>\x7b1,2\x7d"),
    entry "text-shadow" "text-shadow" none
      "Enables shadow effects to be applied to the text of the element."
      (some "none | <shadow-t>#"),
    entry "text-transform" "text-transform" none
      "Controls capitalization effects of an element's text."
      (some "none | capitalize | uppercase | lowercase | full-width | full-size-kana"),
    entry "top" "top" none
      ("Specifies how far an absolutely positioned box's top margin edge is offset below the "
        ++ "top edge of the box's 'containing block'.")
      (some "<length> | <percentage> | auto"),
    entry "transform" "transform" none
      ("A two-dimensional transformation is applied to an element through the 'transform' "
        ++ "property. This property contains a list of transform functions similar to those "
        ++ "allowed by SVG.")
      (some "none | <transform-list>"),
    entry "transform-origin" "transform-origin" none
      "Establishes the origin of transformation for an element."
      (some "<length-percentage> | left | center | right | top | bottom"),
    entry "transition" "transition" none
      "Shorthand property combines four of the transition properties into a single property."
      (some "<single-transition>#"),
    entry "transition-duration" "transition-duration" none
      "Specifies how long the transition from the old value to the new value should take."
      (some "<time>#"),
    entry "transition-property" "transition-property" none
      "Specifies the name of the CSS property to which the transition is applied."
      (some "none | <single-transition-property>#"),
    entry "transition-timing-function" "transition-timing-function" none
      "Describes how the intermediate values used during a transition will be calculated."
      (some "<easing-function>#"),
    entry "user-select" "user-select" none
      "Controls the appearance of selection."
      (some "auto | text | none | contain | all"),
    entry "vertical-align" "vertical-align" none
      ("Affects the vertical positioning of the inline boxes generated by an inline-level "
        ++ "element inside a line box.")
      (some ("baseline | sub | super | text-top | text-bottom | middle | top | bottom | "
        ++ "<percentage> | <length>")),
    entry "visibility" "visibility" none
      ("Specifies whether the boxes generated by an element are rendered. Invisible boxes still "
        ++ "affect layout (set the 'display' property to 'none' to suppress box generation "
        ++ "altogether).")
      (some "visible | hidden | collapse"),
    entry "white-space" "white-space" none
      "Shorthand property for the 'white-space-collapsing' and 'text-wrap' properties."
      (some "normal | pre | nowrap | pre-wrap | pre-line | break-spaces"),
    entry "width" "width" none
      ("Specifies the width of the content area, padding area or border area (depending on "
        ++ "'box-sizing') of certain boxes.")
      (some "auto | <length> | <percentage> | min-content | max-content | fit-content"),
    entry "word-break" "word-break" none
      "Specifies line break opportunities for non-CJK scripts."
      (some "normal | break-all | keep-all | break-word"),
    entry "z-index" "z-index" none
      ("For a positioned box, the 'z-index' property specifies the stack level of the box in "
        ++ "the current stacking context and whether the box establishes a local stacking "
        ++ "context.")
      (some "auto | <integer>"),
    entry "zoom" "zoom" (some .nonstandard)
      "Non-standard. Specifies the magnification scale of the object."
      (some "normal | reset | <number> | <percentage>"),
    entry "box-flex" "box-flex" (some .obsolete)
      ("Specifies how a box grows to fill the box that contains it, in the direction of the "
        ++ "containing box's layout.")
      (some "<number>"),
    entry "appearance" "appearance" (some .experimental)
      "Changes the appearance of buttons and other controls to resemble native controls."
      (some "none | auto | menulist-button | textfield")]

/-- The pseudo-classes that are documented. -/
def pseudoClasses : List Entry :=
  [entry ":active" ":active" none
      ("Applies while an element is being activated by the user. For example, between the times "
        ++ "the user presses the mouse button and releases it.")
      none,
    entry ":checked" ":checked" none
      ("Radio and checkbox elements can be toggled by the user. Some menu items are checked "
        ++ "when the user selects them. When such elements are toggled on the :checked "
        ++ "pseudo-class applies.")
      none,
    entry ":disabled" ":disabled" none
      ("Represents user interface elements that are in a disabled state; such elements have a "
        ++ "corresponding enabled state.")
      none,
    entry ":empty" ":empty" none
      "Represents an element that has no children at all."
      none,
    entry ":enabled" ":enabled" none
      ("Represents user interface elements that are in an enabled state; such elements have a "
        ++ "corresponding disabled state.")
      none,
    entry ":first-child" ":first-child" none
      "Same as :nth-child(1). Represents an element that is the first child of some other element."
      none,
    entry ":first-of-type" ":first-of-type" none
      ("Same as :nth-of-type(1). Represents an element that is the first sibling of its type in "
        ++ "the list of children of its parent element.")
      none,
    entry ":focus" ":focus" none
      ("Applies while an element has the focus (accepts keyboard or mouse events, or other "
        ++ "forms of input).")
      none,
    entry ":focus-visible" ":focus-visible" none
      ("Applies while an element matches the :focus pseudo-class and the user agent determines "
        ++ "that the focus should be made evident on the element.")
      none,
    entry ":focus-within" ":focus-within" none
      ("Represents an element that has received focus or contains an element that has received "
        ++ "focus.")
      none,
    entry ":has" ":has" none
      ("Represents an element if any of the relative selectors passed as an argument match when "
        ++ "anchored against this element.")
      none,
    entry ":host" ":host" none
      "When evaluated in the context of a shadow tree, matches the shadow tree's host element."
      none,
    entry ":hover" ":hover" none
      ("Applies while the user designates an element with a pointing device, but does not "
        ++ "necessarily activate it. For example, a visual user agent could apply this "
        ++ "pseudo-class when the cursor (mouse pointer) hovers over a box generated by the "
        ++ "element.")
      none,
    entry ":is" ":is" none
      ("Represents an element that is represented by any of the selectors in the list passed as "
        ++ "its argument, taking the specificity of its most specific argument.")
      none,
    entry ":last-child" ":last-child" none
      ("Same as :nth-last-child(1). Represents an element that is the last child of some other "
        ++ "element.")
      none,
    entry ":link" ":link" none
      "Applies to links that have not yet been visited."
      none,
    entry ":not" ":not" none
      ("The negation pseudo-class, :not(X), is a functional notation taking a simple selector "
        ++ "(excluding the negation pseudo-class itself) as an argument. It represents an "
        ++ "element that is not represented by its argument.")
      none,
    entry ":nth-child" ":nth-child" none
      ("Represents an element that has an+b-1 siblings before it in the document tree, for any "
        ++ "positive integer or zero value of n, and has a parent element.")
      none,
    entry ":nth-last-child" ":nth-last-child" none
      ("Represents an element that has an+b-1 siblings after it in the document tree, for any "
        ++ "positive integer or zero value of n, and has a parent element.")
      none,
    entry ":nth-of-type" ":nth-of-type" none
      ("Represents an element that has an+b-1 siblings with the same expanded element name "
        ++ "before it in the document tree, for any zero or positive integer value of n, and has "
        ++ "a parent element.")
      none,
    entry ":only-child" ":only-child" none
      ("Represents an element that has a parent element and whose parent element has no other "
        ++ "element children.")
      none,
    entry ":placeholder-shown" ":placeholder-shown" none
      "Matches an input element that is showing such placeholder text."
      none,
    entry ":root" ":root" none
      ("Represents an element that is the root of the document. In HTML 4, this is always the "
        ++ "HTML element.")
      none,
    entry ":target" ":target" none
      ("Some URIs refer to a location within a resource. This kind of URI ends with a number "
        ++ "sign followed by an anchor identifier (called the fragment identifier).")
      none,
    entry ":visited" ":visited" none
      "Applies once the link has been visited by the user."
      none,
    entry ":where" ":where" none
      ("Takes a selector list as its argument, and selects any element that can be selected by "
        ++ "one of the selectors in that list. It always has zero specificity.")
      none]

/-- The pseudo-elements that are documented. -/
def pseudoElements : List Entry :=
  [entry "::after" "::after" none
      ("Represents a styleable child pseudo-element immediately after the originating element's "
        ++ "actual content.")
      none,
    entry "::backdrop" "::backdrop" none
      ("Used to create a backdrop that hides the underlying document for an element in a top "
        ++ "layer (such as an element that is displayed fullscreen).")
      none,
    entry "::before" "::before" none
      ("Represents a styleable child pseudo-element immediately before the originating "
        ++ "element's actual content.")
      none,
    entry "::first-letter" "::first-letter" none
      ("Represents the first letter of an element, if it is not preceded by any other content "
        ++ "(such as images or inline tables) on its line.")
      none,
    entry "::first-line" "::first-line" none
      "Describes the contents of the first formatted line of its originating element."
      none,
    entry "::marker" "::marker" none
      "Selects the marker box of a list item, which typically contains a bullet or number."
      none,
    entry "::placeholder" "::placeholder" none
      "Represents the placeholder text of a form element."
      none,
    entry "::selection" "::selection" none
      "Represents the portion of a document that has been highlighted by the user."
      none,
    entry "::slotted" "::slotted" none
      "Represents any element that has been placed into a slot inside an HTML template."
      none,
    entry "::-webkit-scrollbar" "::-webkit-scrollbar" (some .nonstandard)
      "Represents the scrollbar of an element with overflow."
      none]

/-- The at-rules that are documented. -/
def atRules : List Entry :=
  [entry "@charset" "@charset" none
      "Defines character set of the document."
      none,
    entry "@container" "@container" none
      "Applies styles to an element's contents based on the size or the style of its container."
      none,
    entry "@counter-style" "@counter-style" none
      "Defines a custom counter style."
      none,
    entry "@font-face" "@font-face" none
      ("Allows for linking to fonts that are automatically activated when needed. This permits "
        ++ "authors to work around the limitation of 'web-safe' fonts, allowing for consistent "
        ++ "rendering independent of the fonts available in a given user's environment.")
      none,
    entry "@font-feature-values" "@font-feature-values" none
      ("Defines named values for the indices used to select alternate glyphs for a given font "
        ++ "family.")
      none,
    entry "@import" "@import" none
      "Includes content of another file."
      none,
    entry "@keyframes" "@keyframes" none
      "Defines set of animation key frames."
      none,
    entry "@layer" "@layer" none
      "Declare a cascade layer and the order of precedence in case of multiple cascade layers."
      none,
    entry "@media" "@media" none
      "Defines a stylesheet for a particular media type."
      none,
    entry "@namespace" "@namespace" none
      "Declares a prefix and associates it with a namespace name."
      none,
    entry "@page" "@page" none
      "Directive defines various page parameters."
      none,
    entry "@property" "@property" none
      "Describes the aspect of custom properties and variables."
      none,
    entry "@supports" "@supports" none
      ("A conditional group rule whose condition tests whether the user agent supports CSS "
        ++ "property:value pairs.")
      none]

end Builtin

/-- The documentation that is there without any file. -/
def Dataset.builtin : Dataset :=
  ofFile ⟨Builtin.properties, Builtin.pseudoClasses, Builtin.pseudoElements, Builtin.atRules⟩

end StyleLens
