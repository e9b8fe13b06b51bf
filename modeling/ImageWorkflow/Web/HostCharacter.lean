/-!
# Characters of international host names

A name outside ASCII may hold lower-case letters, marks and digits of any script, as far as they are
the same in every compatible spelling.  The classes here are of characters in lower case.
* `isHostCharacter c` : `c` may stand in a name, wherever it is;
* `isMark c` : `c` is a mark on the character before it;
* `isComposed base mark` : the two have a spelling as one character, which is the one to use;
* `isRightToLeft c`, `isJoiningMark c` : `c` is of a script that runs to the left, and `c` is a mark
  that joins consonants;
* `joinsNext c`, `joinsPrevious c` : `c` is a letter of a cursive script that is joined to the
  letter behind it, or to the one before it.
-/

namespace ImageWorkflow.Web

/-- The characters outside ASCII that may stand in a name: first and last code points. -/
def hostRanges : Array (Nat × Nat) := #[
  (223, 246), (248, 305), (309, 318), (322, 328), (331, 382), (384, 451), (462, 496), (501, 687),
  (697, 705), (710, 721), (748, 748), (750, 750), (768, 831), (834, 834), (838, 846), (848, 883),
  (887, 887), (891, 893), (912, 912), (940, 974), (983, 1007), (1011, 1011), (1016, 1153),
  (1155, 1159), (1163, 1327), (1369, 1369), (1376, 1414), (1416, 1416), (1425, 1469), (1471, 1471),
  (1473, 1474), (1476, 1477), (1479, 1479), (1488, 1514), (1519, 1522), (1552, 1562), (1568, 1599),
  (1601, 1631), (1646, 1652), (1657, 1747), (1749, 1756), (1759, 1768), (1770, 1775), (1786, 1791),
  (1808, 1866), (1869, 1969), (1984, 2037), (2045, 2045), (2048, 2093), (2112, 2139), (2144, 2154),
  (2160, 2183), (2185, 2190), (2200, 2273), (2275, 2391), (2400, 2403), (2406, 2415), (2417, 2435),
  (2437, 2444), (2447, 2448), (2451, 2472), (2474, 2480), (2482, 2482), (2486, 2489), (2492, 2500),
  (2503, 2504), (2507, 2510), (2519, 2519), (2528, 2531), (2534, 2545), (2556, 2556), (2558, 2558),
  (2561, 2563), (2565, 2570), (2575, 2576), (2579, 2600), (2602, 2608), (2610, 2610), (2613, 2613),
  (2616, 2617), (2620, 2620), (2622, 2626), (2631, 2632), (2635, 2637), (2641, 2641), (2652, 2652),
  (2662, 2677), (2689, 2691), (2693, 2701), (2703, 2705), (2707, 2728), (2730, 2736), (2738, 2739),
  (2741, 2745), (2748, 2757), (2759, 2761), (2763, 2765), (2768, 2768), (2784, 2787), (2790, 2799),
  (2809, 2815), (2817, 2819), (2821, 2828), (2831, 2832), (2835, 2856), (2858, 2864), (2866, 2867),
  (2869, 2873), (2876, 2884), (2887, 2888), (2891, 2893), (2901, 2903), (2911, 2915), (2918, 2927),
  (2929, 2929), (2946, 2947), (2949, 2954), (2958, 2960), (2962, 2965), (2969, 2970), (2972, 2972),
  (2974, 2975), (2979, 2980), (2984, 2986), (2990, 3001), (3006, 3010), (3014, 3016), (3018, 3021),
  (3024, 3024), (3031, 3031), (3046, 3055), (3072, 3084), (3086, 3088), (3090, 3112), (3114, 3129),
  (3132, 3140), (3142, 3144), (3146, 3149), (3157, 3158), (3160, 3162), (3165, 3165), (3168, 3171),
  (3174, 3183), (3200, 3203), (3205, 3212), (3214, 3216), (3218, 3240), (3242, 3251), (3253, 3257),
  (3260, 3268), (3270, 3272), (3274, 3277), (3285, 3286), (3293, 3294), (3296, 3299), (3302, 3311),
  (3313, 3314), (3328, 3340), (3342, 3344), (3346, 3396), (3398, 3400), (3402, 3406), (3412, 3415),
  (3423, 3427), (3430, 3439), (3450, 3455), (3457, 3459), (3461, 3478), (3482, 3505), (3507, 3515),
  (3517, 3517), (3520, 3526), (3530, 3530), (3535, 3540), (3542, 3542), (3544, 3551), (3558, 3567),
  (3570, 3571), (3585, 3634), (3636, 3642), (3648, 3662), (3664, 3673), (3713, 3714), (3716, 3716),
  (3718, 3722), (3724, 3747), (3749, 3749), (3751, 3762), (3764, 3773), (3776, 3780), (3782, 3782),
  (3784, 3789), (3792, 3801), (3806, 3807), (3840, 3840), (3851, 3851), (3864, 3865), (3872, 3881),
  (3893, 3893), (3895, 3895), (3897, 3897), (3902, 3906), (3908, 3911), (3913, 3916), (3918, 3921),
  (3923, 3926), (3928, 3931), (3933, 3944), (3946, 3948), (3953, 3954), (3956, 3956), (3962, 3968),
  (3970, 3972), (3974, 3986), (3988, 3991), (3993, 3996), (3998, 4001), (4003, 4006), (4008, 4011),
  (4013, 4024), (4026, 4028), (4038, 4038), (4096, 4169), (4176, 4253), (4304, 4346), (4349, 4351),
  (4608, 4680), (4682, 4685), (4688, 4694), (4696, 4696), (4698, 4701), (4704, 4744), (4746, 4749),
  (4752, 4784), (4786, 4789), (4792, 4798), (4800, 4800), (4802, 4805), (4808, 4822), (4824, 4880),
  (4882, 4885), (4888, 4954), (4957, 4959), (4992, 5007), (5121, 5740), (5743, 5759), (5761, 5786),
  (5792, 5866), (5873, 5880), (5888, 5909), (5919, 5940), (5952, 5971), (5984, 5996), (5998, 6000),
  (6002, 6003), (6016, 6067), (6070, 6099), (6103, 6103), (6108, 6109), (6112, 6121), (6160, 6169),
  (6176, 6264), (6272, 6314), (6320, 6389), (6400, 6430), (6432, 6443), (6448, 6459), (6470, 6509),
  (6512, 6516), (6528, 6571), (6576, 6601), (6608, 6617), (6656, 6683), (6688, 6750), (6752, 6780),
  (6783, 6793), (6800, 6809), (6823, 6823), (6832, 6845), (6847, 6862), (6912, 6988), (6992, 7001),
  (7019, 7027), (7040, 7155), (7168, 7223), (7232, 7241), (7245, 7293), (7376, 7378), (7380, 7418),
  (7424, 7467), (7471, 7471), (7483, 7483), (7502, 7502), (7531, 7543), (7545, 7578), (7616, 7833),
  (7836, 7957), (7968, 8005), (8016, 8023), (8032, 8048), (8050, 8050), (8052, 8052), (8054, 8054),
  (8056, 8056), (8058, 8058), (8060, 8060), (8112, 8113), (8118, 8118), (8134, 8134), (8144, 8146),
  (8150, 8151), (8160, 8162), (8164, 8167), (8182, 8182), (8526, 8526), (8580, 8580),
  (11312, 11387), (11393, 11492), (11500, 11507), (11520, 11557), (11559, 11559), (11565, 11565),
  (11568, 11623), (11647, 11670), (11680, 11686), (11688, 11694), (11696, 11702), (11704, 11710),
  (11712, 11718), (11720, 11726), (11728, 11734), (11736, 11742), (11744, 11775), (11823, 11823),
  (12293, 12295), (12330, 12333), (12348, 12348), (12353, 12438), (12441, 12442), (12445, 12446),
  (12449, 12538), (12540, 12542), (12549, 12591), (12704, 12735), (12784, 12799), (13312, 19903),
  (19968, 42124), (42192, 42237), (42240, 42508), (42512, 42539), (42561, 42607), (42612, 42621),
  (42623, 42651), (42654, 42725), (42736, 42737), (42775, 42783), (42787, 42863), (42865, 42888),
  (42892, 42954), (42961, 42961), (42963, 42963), (42965, 42969), (42998, 42999), (43002, 43047),
  (43052, 43052), (43072, 43123), (43136, 43205), (43216, 43225), (43232, 43255), (43259, 43259),
  (43261, 43309), (43312, 43347), (43392, 43456), (43471, 43481), (43488, 43518), (43520, 43574),
  (43584, 43597), (43600, 43609), (43616, 43638), (43642, 43714), (43739, 43741), (43744, 43759),
  (43762, 43766), (43777, 43782), (43785, 43790), (43793, 43798), (43808, 43814), (43816, 43822),
  (43824, 43866), (43872, 43880), (43968, 44010), (44012, 44013), (44016, 44025), (44032, 55203),
  (64014, 64015), (64017, 64017), (64019, 64020), (64031, 64031), (64033, 64033), (64035, 64036),
  (64039, 64041), (64286, 64286), (65056, 65071), (65139, 65139), (65536, 65547), (65549, 65574),
  (65576, 65594), (65596, 65597), (65599, 65613), (65616, 65629), (65664, 65786), (66045, 66045),
  (66176, 66204), (66208, 66256), (66272, 66272), (66304, 66335), (66349, 66368), (66370, 66377),
  (66384, 66426), (66432, 66461), (66464, 66499), (66504, 66511), (66600, 66717), (66720, 66729),
  (66776, 66811), (66816, 66855), (66864, 66915), (66967, 66977), (66979, 66993), (66995, 67001),
  (67003, 67004), (67072, 67382), (67392, 67413), (67424, 67431), (67456, 67456), (67584, 67589),
  (67592, 67592), (67594, 67637), (67639, 67640), (67644, 67644), (67647, 67669), (67680, 67702),
  (67712, 67742), (67808, 67826), (67828, 67829), (67840, 67861), (67872, 67897), (67968, 68023),
  (68030, 68031), (68096, 68099), (68101, 68102), (68108, 68115), (68117, 68119), (68121, 68149),
  (68152, 68154), (68159, 68159), (68192, 68220), (68224, 68252), (68288, 68295), (68297, 68326),
  (68352, 68405), (68416, 68437), (68448, 68466), (68480, 68497), (68608, 68680), (68800, 68850),
  (68864, 68903), (68912, 68921), (69248, 69289), (69291, 69292), (69296, 69297), (69376, 69404),
  (69415, 69415), (69424, 69456), (69488, 69509), (69552, 69572), (69600, 69622), (69632, 69702),
  (69734, 69749), (69759, 69818), (69826, 69826), (69840, 69864), (69872, 69881), (69888, 69940),
  (69942, 69951), (69956, 69959), (69968, 70003), (70006, 70006), (70016, 70084), (70089, 70092),
  (70094, 70106), (70108, 70108), (70144, 70161), (70163, 70199), (70206, 70206), (70272, 70278),
  (70280, 70280), (70282, 70285), (70287, 70301), (70303, 70312), (70320, 70378), (70384, 70393),
  (70400, 70403), (70405, 70412), (70415, 70416), (70419, 70440), (70442, 70448), (70450, 70451),
  (70453, 70457), (70459, 70468), (70471, 70472), (70475, 70477), (70480, 70480), (70487, 70487),
  (70493, 70499), (70502, 70508), (70512, 70516), (70656, 70730), (70736, 70745), (70750, 70753),
  (70784, 70853), (70855, 70855), (70864, 70873), (71040, 71093), (71096, 71104), (71128, 71133),
  (71168, 71232), (71236, 71236), (71248, 71257), (71296, 71352), (71360, 71369), (71424, 71450),
  (71453, 71467), (71472, 71481), (71488, 71494), (71680, 71738), (71872, 71913), (71935, 71942),
  (71945, 71945), (71948, 71955), (71957, 71958), (71960, 71989), (71991, 71992), (71995, 72003),
  (72016, 72025), (72096, 72103), (72106, 72151), (72154, 72161), (72163, 72164), (72192, 72254),
  (72263, 72263), (72272, 72345), (72349, 72349), (72368, 72440), (72704, 72712), (72714, 72758),
  (72760, 72768), (72784, 72793), (72818, 72847), (72850, 72871), (72873, 72886), (72960, 72966),
  (72968, 72969), (72971, 73014), (73018, 73018), (73020, 73021), (73023, 73031), (73040, 73049),
  (73056, 73061), (73063, 73064), (73066, 73102), (73104, 73105), (73107, 73112), (73120, 73129),
  (73440, 73462), (73648, 73648), (73728, 74649), (74880, 75075), (77712, 77808), (77824, 78894),
  (82944, 83526), (92160, 92728), (92736, 92766), (92768, 92777), (92784, 92862), (92864, 92873),
  (92880, 92909), (92912, 92916), (92928, 92982), (92992, 92995), (93008, 93017), (93027, 93047),
  (93053, 93071), (93792, 93823), (93952, 94026), (94031, 94087), (94095, 94111), (94176, 94177),
  (94179, 94180), (94192, 94193), (94208, 100343), (100352, 101589), (101632, 101640),
  (110576, 110579), (110581, 110587), (110589, 110590), (110592, 110882), (110928, 110930),
  (110948, 110951), (110960, 111355), (113664, 113770), (113776, 113788), (113792, 113800),
  (113808, 113817), (113821, 113822), (118528, 118573), (118576, 118598), (121344, 121398),
  (121403, 121452), (121461, 121461), (121476, 121476), (121499, 121503), (121505, 121519),
  (122624, 122654), (122880, 122886), (122888, 122904), (122907, 122913), (122915, 122916),
  (122918, 122922), (123136, 123180), (123184, 123197), (123200, 123209), (123214, 123214),
  (123536, 123566), (123584, 123641), (124896, 124902), (124904, 124907), (124909, 124910),
  (124912, 124926), (124928, 125124), (125136, 125142), (125218, 125259), (125264, 125273),
  (131072, 173791), (173824, 177976), (177984, 178205), (178208, 183969), (183984, 191456),
  (196608, 201546)]

/-- The marks among them: first and last code points. -/
def markRanges : Array (Nat × Nat) := #[
  (768, 879), (1155, 1159), (1425, 1479), (1552, 1562), (1611, 1631), (1648, 1648), (1750, 1764),
  (1767, 1773), (1809, 1809), (1840, 1866), (1958, 1968), (2027, 2035), (2045, 2045), (2070, 2073),
  (2075, 2083), (2085, 2087), (2089, 2093), (2137, 2139), (2200, 2207), (2250, 2307), (2362, 2364),
  (2366, 2383), (2385, 2391), (2402, 2403), (2433, 2435), (2492, 2492), (2494, 2509), (2519, 2519),
  (2530, 2531), (2558, 2563), (2620, 2641), (2672, 2673), (2677, 2691), (2748, 2748), (2750, 2765),
  (2786, 2787), (2810, 2819), (2876, 2876), (2878, 2903), (2914, 2915), (2946, 2946), (3006, 3021),
  (3031, 3031), (3072, 3076), (3132, 3132), (3134, 3158), (3170, 3171), (3201, 3203), (3260, 3260),
  (3262, 3286), (3298, 3299), (3328, 3331), (3387, 3388), (3390, 3405), (3415, 3415), (3426, 3427),
  (3457, 3459), (3530, 3551), (3570, 3571), (3633, 3633), (3636, 3642), (3655, 3662), (3761, 3761),
  (3764, 3772), (3784, 3789), (3864, 3865), (3893, 3903), (3953, 3975), (3981, 4038), (4139, 4158),
  (4182, 4185), (4190, 4192), (4194, 4196), (4199, 4205), (4209, 4212), (4226, 4237), (4239, 4239),
  (4250, 4253), (4957, 4959), (5906, 5909), (5938, 5940), (5970, 5971), (6002, 6003), (6070, 6099),
  (6109, 6109), (6277, 6278), (6313, 6313), (6432, 6459), (6679, 6683), (6741, 6783), (6832, 6916),
  (6964, 6980), (7019, 7042), (7073, 7085), (7142, 7155), (7204, 7223), (7376, 7400), (7405, 7405),
  (7412, 7412), (7415, 7417), (7616, 7679), (11503, 11505), (11647, 11647), (11744, 11775),
  (12330, 12333), (12441, 12442), (42607, 42621), (42654, 42655), (42736, 42737), (43010, 43010),
  (43014, 43014), (43019, 43019), (43043, 43052), (43136, 43137), (43188, 43205), (43232, 43249),
  (43263, 43263), (43302, 43309), (43335, 43395), (43443, 43456), (43493, 43493), (43561, 43574),
  (43587, 43587), (43596, 43597), (43643, 43645), (43696, 43696), (43698, 43700), (43703, 43704),
  (43710, 43711), (43713, 43713), (43755, 43759), (43765, 43766), (44003, 44013), (64286, 65071),
  (66045, 66045), (66272, 66272), (66422, 66426), (68097, 68111), (68152, 68159), (68325, 68326),
  (68900, 68903), (69291, 69292), (69446, 69456), (69506, 69509), (69632, 69634), (69688, 69702),
  (69744, 69744), (69747, 69748), (69759, 69762), (69808, 69826), (69888, 69890), (69927, 69940),
  (69957, 69958), (70003, 70003), (70016, 70018), (70067, 70080), (70089, 70095), (70188, 70206),
  (70367, 70378), (70400, 70403), (70459, 70460), (70462, 70477), (70487, 70487), (70498, 70516),
  (70709, 70726), (70750, 70750), (70832, 70851), (71087, 71104), (71132, 71133), (71216, 71232),
  (71339, 71351), (71453, 71467), (71724, 71738), (71984, 71998), (72000, 72000), (72002, 72003),
  (72145, 72160), (72164, 72164), (72193, 72202), (72243, 72249), (72251, 72263), (72273, 72283),
  (72330, 72345), (72751, 72767), (72850, 72886), (73009, 73029), (73031, 73031), (73098, 73111),
  (73459, 73462), (92912, 92916), (92976, 92982), (94031, 94031), (94033, 94098), (94180, 94193),
  (113821, 121519), (122880, 122922), (123184, 123190), (123566, 123566), (123628, 123631),
  (125136, 125142), (125252, 125258)]

/-- The letters of scripts that run to the left: first and last code points. -/
def rightToLeftRanges : Array (Nat × Nat) := #[
  (1488, 1524), (1568, 1610), (1646, 1647), (1649, 1749), (1765, 1766), (1774, 1808), (1810, 1839),
  (1869, 1957), (1969, 2026), (2036, 2037), (2048, 2069), (2074, 2074), (2084, 2084), (2088, 2088),
  (2112, 2136), (2144, 2190), (2208, 2249), (65139, 65139), (67584, 68096), (68112, 68149),
  (68192, 68324), (68352, 68899), (69248, 69289), (69296, 69445), (69488, 69505), (69552, 69622),
  (124928, 125124), (125218, 125251), (125259, 125273)]

/-- The marks that join consonants: first and last code points. -/
def joiningMarkRanges : Array (Nat × Nat) := #[
  (2381, 2381), (2509, 2509), (2637, 2637), (2765, 2765), (2893, 2893), (3021, 3021), (3149, 3149),
  (3277, 3277), (3387, 3388), (3405, 3405), (3530, 3530), (3642, 3642), (3770, 3770), (3972, 3972),
  (4153, 4154), (5908, 5909), (5940, 5940), (6098, 6098), (6752, 6752), (6980, 6980), (7082, 7083),
  (7154, 7155), (11647, 11647), (43014, 43014), (43052, 43052), (43204, 43204), (43347, 43347),
  (43456, 43456), (43766, 43766), (44013, 44013), (68159, 68159), (69702, 69702), (69744, 69744),
  (69759, 69759), (69817, 69817), (69939, 69940), (70080, 70080), (70197, 70197), (70378, 70378),
  (70477, 70477), (70722, 70722), (70850, 70850), (71103, 71103), (71231, 71231), (71350, 71350),
  (71467, 71467), (71737, 71737), (71997, 71998), (72160, 72160), (72244, 72244), (72263, 72263),
  (72345, 72345), (72767, 72767), (73028, 73029), (73111, 73111)]

/-- The marks that make one character with the letter before them, each with those letters. -/
def composites : List (Nat × List Nat) := [
  (768, [97, 101, 105, 111, 117, 252, 110, 1077, 1080, 275, 333, 119, 226, 259, 234, 244, 417, 432,
    121, 7936, 7937, 7952, 7953, 7968, 7969, 7984, 7985, 8000, 8001, 8016, 8017, 8032, 8033, 945,
    949, 951, 953, 959, 965, 969, 970, 971]), (769, [97, 101, 105, 111, 117, 121, 99, 108, 110, 114,
    115, 122, 252, 103, 229, 230, 248, 970, 945, 949, 951, 953, 971, 959, 965, 969, 1075, 1082, 231,
    275, 239, 107, 109, 245, 333, 112, 361, 119, 226, 259, 234, 244, 417, 432, 7936, 7937, 7952,
    7953, 7968, 7969, 7984, 7985, 8000, 8001, 8016, 8017, 8032, 8033]), (770, [97, 101, 105, 111,
    117, 99, 103, 104, 106, 115, 119, 121, 122, 7841, 7865, 7885]), (771, [97, 110, 111, 105, 117,
    118, 226, 259, 101, 234, 244, 417, 432, 121]), (772, [97, 101, 105, 111, 117, 252, 228, 551,
    230, 491, 246, 245, 559, 121, 1080, 1091, 103, 7735, 7771, 945, 953, 965]), (774, [97, 101, 103,
    105, 111, 117, 1080, 1091, 1078, 1072, 1077, 553, 7841, 945, 953, 965]), (775, [99, 101, 103,
    122, 97, 111, 98, 100, 102, 104, 109, 110, 112, 114, 115, 347, 353, 7779, 116, 119, 120, 121]),
  (776, [97, 101, 105, 111, 117, 121, 953, 965, 1077, 1110, 1072, 1241, 1078, 1079, 1080, 1086,
    1257, 1101, 1091, 1095, 1099, 104, 245, 363, 119, 120, 116]), (777, [97, 226, 259, 101, 234,
    105, 111, 244, 417, 117, 432, 121]), (778, [97, 117, 119, 121]), (779, [111, 117, 1091]),
  (780, [99, 100, 101, 108, 110, 114, 115, 116, 122, 97, 105, 111, 117, 252, 103, 107, 658, 106,
    104]), (783, [97, 101, 105, 111, 114, 117, 1141]), (785, [97, 101, 105, 111, 114, 117]),
  (787, [945, 949, 951, 953, 959, 965, 969, 961]), (788, [945, 949, 951, 953, 959, 965, 969, 961]),
  (795, [111, 117]), (803, [98, 100, 104, 107, 108, 109, 110, 114, 115, 116, 118, 119, 122, 97, 101,
    105, 111, 417, 117, 432, 121]), (804, [117]), (805, [97]), (806, [115, 116]), (807, [99, 103,
    107, 108, 110, 114, 115, 116, 101, 100, 104]), (808, [97, 101, 105, 117, 111]), (813, [100, 101,
    108, 110, 116, 117]), (814, [104]), (816, [101, 105, 117]), (817, [98, 100, 107, 108, 110, 114,
    116, 122, 104]), (834, [7936, 7937, 7968, 7969, 7984, 7985, 8016, 8017, 8032, 8033, 945, 951,
    953, 970, 965, 971, 969]), (1619, [1575]), (1620, [1575, 1608, 1610, 1749, 1729, 1746]),
  (1621, [1575]), (2364, [2344, 2352, 2355]), (2494, [2503]), (2519, [2503]), (2878, [2887]),
  (2902, [2887]), (2903, [2887]), (3006, [3014, 3015]), (3031, [2962, 3014]), (3158, [3142]),
  (3266, [3270]), (3285, [3263, 3270, 3274]), (3286, [3270]), (3390, [3398, 3399]), (3415, [3398]),
  (3530, [3545, 3548]), (3535, [3545]), (3551, [3545]), (4142, [4133]), (6965, [6917, 6919, 6921,
    6923, 6925, 6929, 6970, 6972, 6974, 6975, 6978]), (12441, [12363, 12365, 12367, 12369, 12371,
    12373, 12375, 12377, 12379, 12381, 12383, 12385, 12388, 12390, 12392, 12399, 12402, 12405,
    12408, 12411, 12358, 12445, 12459, 12461, 12463, 12465, 12467, 12469, 12471, 12473, 12475,
    12477, 12479, 12481, 12484, 12486, 12488, 12495, 12498, 12501, 12504, 12507, 12454, 12527,
    12528, 12529, 12530, 12541]), (12442, [12399, 12402, 12405, 12408, 12411, 12495, 12498, 12501,
    12504, 12507]), (69818, [69785, 69787, 69797]), (69927, [69937, 69938]), (70462, [70471]),
  (70487, [70471]), (70832, [70841]), (70842, [70841]), (70845, [70841]), (71087, [71096, 71097]),
  (71984, [71989])]

/-- The letters of cursive scripts that are joined to the letters on both sides: first and last code
points. -/
def dualJoiningRanges : Array (Nat × Nat) := #[
  (1568, 1568), (1574, 1574), (1576, 1576), (1578, 1582), (1587, 1599), (1601, 1607), (1609, 1610),
  (1646, 1647), (1657, 1671), (1690, 1727), (1729, 1730), (1740, 1740), (1742, 1742), (1744, 1745),
  (1786, 1788), (1791, 1791), (1810, 1812), (1818, 1821), (1823, 1831), (1833, 1833), (1835, 1835),
  (1837, 1838), (1870, 1880), (1884, 1898), (1901, 1904), (1906, 1906), (1909, 1911), (1914, 1919)]

/-- The letters of cursive scripts that are joined to the letter before them only: first and last
code points. -/
def backJoiningRanges : Array (Nat × Nat) := #[
  (1570, 1573), (1575, 1575), (1577, 1577), (1583, 1586), (1608, 1608), (1649, 1651), (1672, 1689),
  (1728, 1728), (1731, 1739), (1741, 1741), (1743, 1743), (1746, 1747), (1749, 1749), (1774, 1775),
  (1808, 1808), (1813, 1817), (1822, 1822), (1832, 1832), (1834, 1834), (1836, 1836), (1839, 1839),
  (1869, 1869), (1881, 1883), (1899, 1900), (1905, 1905), (1907, 1908), (1912, 1913)]

/-- Whether a character is in one of some ranges. -/
def isIn (ranges : Array (Nat × Nat)) (c : Char) : Bool :=
  ranges.any fun range => range.1 ≤ c.toNat && c.toNat ≤ range.2

/-- Whether `c` may stand in a name, wherever it is. -/
def isHostCharacter (c : Char) : Bool :=
  if c.toNat < 128 then c.isLower || c.isDigit || c == '-' else isIn hostRanges c

/-- Whether `c` is a mark on the character before it. -/
def isMark (c : Char) : Bool := isIn markRanges c

/-- Whether `c` is of a script that runs to the left. -/
def isRightToLeft (c : Char) : Bool := isIn rightToLeftRanges c

/-- Whether `c` is a mark that joins consonants. -/
def isJoiningMark (c : Char) : Bool := isIn joiningMarkRanges c

/-- Whether `c` is a letter that is joined to the one behind it. -/
def joinsNext (c : Char) : Bool := isIn dualJoiningRanges c

/-- Whether `c` is a letter that is joined to the one before it. -/
def joinsPrevious (c : Char) : Bool := isIn dualJoiningRanges c || isIn backJoiningRanges c

/-- Whether two characters have a spelling as one. -/
def isComposed (base mark : Char) : Bool :=
  match composites.lookup mark.toNat with
  | some bases => bases.contains base.toNat
  | none => false

end ImageWorkflow.Web
