import FacetSearch.Text.Ranges
/-!
# The direction of letters

Letters are written from the left to the right or from the right to the left; other characters follow
those around them. The tables hold version 3.2 of the Unicode standard.
-/

namespace FacetSearch.Text

/-- Ranges of letters that are written from the right to the left. -/
def leftwardRanges : List (Nat × Nat) :=
  [(1470, 1470), (1472, 1472), (1475, 1475), (1488, 1514), (1520, 1524), (1563, 1563), (1567, 1567),
   (1569, 1594), (1600, 1610), (1645, 1647), (1649, 1749), (1757, 1757), (1765, 1766), (1786, 1790),
   (1792, 1805), (1808, 1808), (1810, 1836), (1920, 1957), (1969, 1969), (8207, 8207),
   (64285, 64285), (64287, 64296), (64298, 64310), (64312, 64316), (64318, 64318), (64320, 64321),
   (64323, 64324), (64326, 64433), (64467, 64829), (64848, 64911), (64914, 64967), (65008, 65020),
   (65136, 65140), (65142, 65276)]

/-- Ranges of letters that are written from the left to the right. -/
def rightwardRanges : List (Nat × Nat) :=
  [(65, 90), (97, 122), (170, 170), (181, 181), (186, 186), (192, 214), (216, 246), (248, 544),
   (546, 563), (592, 685), (688, 696), (699, 705), (720, 721), (736, 740), (750, 750), (890, 890),
   (902, 902), (904, 906), (908, 908), (910, 929), (931, 974), (976, 1013), (1024, 1154),
   (1162, 1230), (1232, 1269), (1272, 1273), (1280, 1295), (1329, 1366), (1369, 1375), (1377, 1415),
   (1417, 1417), (2307, 2307), (2309, 2361), (2365, 2368), (2377, 2380), (2384, 2384), (2392, 2401),
   (2404, 2416), (2434, 2435), (2437, 2444), (2447, 2448), (2451, 2472), (2474, 2480), (2482, 2482),
   (2486, 2489), (2494, 2496), (2503, 2504), (2507, 2508), (2519, 2519), (2524, 2525), (2527, 2529),
   (2534, 2545), (2548, 2554), (2565, 2570), (2575, 2576), (2579, 2600), (2602, 2608), (2610, 2611),
   (2613, 2614), (2616, 2617), (2622, 2624), (2649, 2652), (2654, 2654), (2662, 2671), (2674, 2676),
   (2691, 2691), (2693, 2699), (2701, 2701), (2703, 2705), (2707, 2728), (2730, 2736), (2738, 2739),
   (2741, 2745), (2749, 2752), (2761, 2761), (2763, 2764), (2768, 2768), (2784, 2784), (2790, 2799),
   (2818, 2819), (2821, 2828), (2831, 2832), (2835, 2856), (2858, 2864), (2866, 2867), (2870, 2873),
   (2877, 2878), (2880, 2880), (2887, 2888), (2891, 2892), (2903, 2903), (2908, 2909), (2911, 2913),
   (2918, 2928), (2947, 2947), (2949, 2954), (2958, 2960), (2962, 2965), (2969, 2970), (2972, 2972),
   (2974, 2975), (2979, 2980), (2984, 2986), (2990, 2997), (2999, 3001), (3006, 3007), (3009, 3010),
   (3014, 3016), (3018, 3020), (3031, 3031), (3047, 3058), (3073, 3075), (3077, 3084), (3086, 3088),
   (3090, 3112), (3114, 3123), (3125, 3129), (3137, 3140), (3168, 3169), (3174, 3183), (3202, 3203),
   (3205, 3212), (3214, 3216), (3218, 3240), (3242, 3251), (3253, 3257), (3262, 3262), (3264, 3268),
   (3271, 3272), (3274, 3275), (3285, 3286), (3294, 3294), (3296, 3297), (3302, 3311), (3330, 3331),
   (3333, 3340), (3342, 3344), (3346, 3368), (3370, 3385), (3390, 3392), (3398, 3400), (3402, 3404),
   (3415, 3415), (3424, 3425), (3430, 3439), (3458, 3459), (3461, 3478), (3482, 3505), (3507, 3515),
   (3517, 3517), (3520, 3526), (3535, 3537), (3544, 3551), (3570, 3572), (3585, 3632), (3634, 3635),
   (3648, 3654), (3663, 3675), (3713, 3714), (3716, 3716), (3719, 3720), (3722, 3722), (3725, 3725),
   (3732, 3735), (3737, 3743), (3745, 3747), (3749, 3749), (3751, 3751), (3754, 3755), (3757, 3760),
   (3762, 3763), (3773, 3773), (3776, 3780), (3782, 3782), (3792, 3801), (3804, 3805), (3840, 3863),
   (3866, 3892), (3894, 3894), (3896, 3896), (3902, 3911), (3913, 3946), (3967, 3967), (3973, 3973),
   (3976, 3979), (4030, 4037), (4039, 4044), (4047, 4047), (4096, 4129), (4131, 4135), (4137, 4138),
   (4140, 4140), (4145, 4145), (4152, 4152), (4160, 4183), (4256, 4293), (4304, 4344), (4347, 4347),
   (4352, 4441), (4447, 4514), (4520, 4601), (4608, 4614), (4616, 4678), (4680, 4680), (4682, 4685),
   (4688, 4694), (4696, 4696), (4698, 4701), (4704, 4742), (4744, 4744), (4746, 4749), (4752, 4782),
   (4784, 4784), (4786, 4789), (4792, 4798), (4800, 4800), (4802, 4805), (4808, 4814), (4816, 4822),
   (4824, 4846), (4848, 4878), (4880, 4880), (4882, 4885), (4888, 4894), (4896, 4934), (4936, 4954),
   (4961, 4988), (5024, 5108), (5121, 5750), (5761, 5786), (5792, 5872), (5888, 5900), (5902, 5905),
   (5920, 5937), (5941, 5942), (5952, 5969), (5984, 5996), (5998, 6000), (6016, 6070), (6078, 6085),
   (6087, 6088), (6100, 6106), (6108, 6108), (6112, 6121), (6160, 6169), (6176, 6263), (6272, 6312),
   (7680, 7835), (7840, 7929), (7936, 7957), (7960, 7965), (7968, 8005), (8008, 8013), (8016, 8023),
   (8025, 8025), (8027, 8027), (8029, 8029), (8031, 8061), (8064, 8116), (8118, 8124), (8126, 8126),
   (8130, 8132), (8134, 8140), (8144, 8147), (8150, 8155), (8160, 8172), (8178, 8180), (8182, 8188),
   (8206, 8206), (8305, 8305), (8319, 8319), (8450, 8450), (8455, 8455), (8458, 8467), (8469, 8469),
   (8473, 8477), (8484, 8484), (8486, 8486), (8488, 8488), (8490, 8493), (8495, 8497), (8499, 8505),
   (8509, 8511), (8517, 8521), (8544, 8579), (9014, 9082), (9109, 9109), (9372, 9449),
   (12293, 12295), (12321, 12329), (12337, 12341), (12344, 12348), (12353, 12438), (12445, 12447),
   (12449, 12538), (12540, 12543), (12549, 12588), (12593, 12686), (12688, 12727), (12784, 12828),
   (12832, 12867), (12896, 12923), (12927, 12976), (12992, 13003), (13008, 13054), (13056, 13174),
   (13179, 13277), (13280, 13310), (13312, 19893), (19968, 40869), (40960, 42124), (44032, 55203),
   (55296, 64045), (64048, 64106), (64256, 64262), (64275, 64279), (65313, 65338), (65345, 65370),
   (65382, 65470), (65474, 65479), (65482, 65487), (65490, 65495), (65498, 65500), (66304, 66334),
   (66336, 66339), (66352, 66378), (66560, 66597), (66600, 66637), (118784, 119029),
   (119040, 119078), (119082, 119142), (119146, 119154), (119171, 119172), (119180, 119209),
   (119214, 119261), (119808, 119892), (119894, 119964), (119966, 119967), (119970, 119970),
   (119973, 119974), (119977, 119980), (119982, 119993), (119995, 119995), (119997, 120000),
   (120002, 120003), (120005, 120069), (120071, 120074), (120077, 120084), (120086, 120092),
   (120094, 120121), (120123, 120126), (120128, 120132), (120134, 120134), (120138, 120144),
   (120146, 120483), (120488, 120777), (131072, 173782), (194560, 195101), (983040, 1048573),
   (1048576, 1114109)]

/-- A letter that is written from the right to the left. -/
def isLeftward (c : Char) : Bool := inRanges leftwardRanges c

/-- A letter that is written from the left to the right. -/
def isRightward (c : Char) : Bool := inRanges rightwardRanges c

end FacetSearch.Text
